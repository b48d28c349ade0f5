/-
The two encodings of filters agree. A list of requests is written as bracket parameters or as one
JSON text, and either is read back as the same list in the same order.
-/
import RowSieve.Proofs.Filter.Brackets
import RowSieve.Proofs.Json.Reads

namespace RowSieve.Filter

open RowSieve.Json (compactChars)
open RowSieve.Json.Reader

/-! ## Values in JSON -/

section Values

variable {depth : Nat} {operator : String} {value : RequestValue} {c : Char} {s rest : List Char}

theorem reads_some {α : Type} {r : Json.Reader α} {a : α} (hb : isJsonBlank c = false)
    (hn : c ≠ 'n') (h : Reads r (c :: s) a rest) : Reads (optional r) (c :: s) (some a) rest := by
  refine (reads_peekPastBlanks hb s).bind ?_
  split
  · rename_i hc
    exact absurd (Option.some.inj hc) hn
  · exact h.bind (.pure _ _)

theorem RequestValue.ofJson?_texts (ts : List String) :
    ofJson? (.texts ts) = some (.list (ts.map .text)) := by
  have h : (ts.map Json.text).mapM Scalar.ofJson? = some (ts.map Scalar.text) := by
    induction ts with
    | nil => rfl
    | cons t ts ih => rw [List.map_cons, List.mapM_cons, ih]; rfl
  rw [Json.texts, ofJson?, h]
  rfl

theorem RequestValue.toJson_texts (ts : List String) :
    toJson (.list (ts.map .text)) = .texts ts := by
  rw [toJson, List.map_map]
  rfl

/-- A text or a list of texts is read back, where one more level is left. -/
theorem Writable.reads_value (hd : 1 < depth) (h : Writable operator (some value))
    (rest : List Char) :
    Reads (RequestValue.read depth) (compactChars value.toJson ++ rest) (some value) rest := by
  cases h with
  | scalar t =>
    have hread := reads_anyValue_text depth t rest
    simp only [RequestValue.toJson, Scalar.toJson, compactChars]
    rw [quoted_append] at hread ⊢
    exact reads_some (by decide) (by decide) (hread.bind (.pure _ _))
  | list t ts =>
    have hread := reads_anyValue_texts hd (t :: ts) rest
    have hvalue : RequestValue.ofJson? (.list ((t :: ts).map Json.text)) =
        some (.list ((t :: ts).map .text)) := RequestValue.ofJson?_texts (t :: ts)
    rw [RequestValue.toJson_texts]
    rw [Json.texts, compactChars] at hread ⊢
    refine reads_some (by decide) (by decide) (hread.bind ?_)
    rw [hvalue]
    exact .pure _ _

end Values

/-! ## Requests in JSON -/

namespace Request

section Members

variable {depth fuel : Nat} {other : String → (depth : Nat) → Parts → Json.Reader Parts}
  {key operator : String} {v : RequestValue} {parts : Parts} {ms : List (String × Json)}
  {rest rest' : List Char}

theorem reads_keyMember
    (h : Reads (form.fromMembers other depth fuel false ⟨some key, none, none⟩)
      (behindMember ms ++ rest) parts rest') :
    Reads (form.fromMembers other depth (fuel + 1) true form.blank)
      (Json.compactMembers (("key", .text key) :: ms) ++ rest) parts rest' := by
  have hfind : form.fields.find? (·.name == "key") = some form.fields[0] := rfl
  have hread : Reads (form.fields[0].read depth form.blank)
      (compactChars (.text key) ++ (behindMember ms ++ rest)) ⟨some key, none, none⟩
      (behindMember ms ++ rest) := (reads_textValue key _).bind (.pure _ _)
  exact reads_fromMembers_field true hfind rfl hread h

theorem reads_operatorMember (ms : List (String × Json))
    (h : Reads (form.fromMembers other depth fuel false ⟨some key, some operator, none⟩)
      (behindMember ms ++ rest) parts rest') :
    Reads (form.fromMembers other depth (fuel + 1) false ⟨some key, none, none⟩)
      (behindMember (("operator", .text operator) :: ms) ++ rest) parts rest' := by
  have hfind : form.fields.find? (·.name == "operator") = some form.fields[1] := rfl
  have hread : Reads (form.fields[1].read depth ⟨some key, none, none⟩)
      (compactChars (.text operator) ++ (behindMember ms ++ rest))
      ⟨some key, some operator, none⟩ (behindMember ms ++ rest) :=
    (reads_textValue operator _).bind (.pure _ _)
  exact reads_fromMembers_field false hfind rfl hread h

theorem reads_valueMember (ms : List (String × Json))
    (hv : ∀ rest, Reads (RequestValue.read depth) (compactChars v.toJson ++ rest) (some v) rest)
    (h : Reads (form.fromMembers other depth fuel false ⟨some key, some operator, some (some v)⟩)
      (behindMember ms ++ rest) parts rest') :
    Reads (form.fromMembers other depth (fuel + 1) false ⟨some key, some operator, none⟩)
      (behindMember (("value", v.toJson) :: ms) ++ rest) parts rest' := by
  have hfind : form.fields.find? (·.name == "value") = some form.fields[2] := rfl
  have hread : Reads (form.fields[2].read depth ⟨some key, some operator, none⟩)
      (compactChars v.toJson ++ (behindMember ms ++ rest))
      ⟨some key, some operator, some (some v)⟩ (behindMember ms ++ rest) :=
    (hv _).bind (.pure _ _)
  exact reads_fromMembers_field false hfind rfl hread h

end Members

/-- A request is read back when its value is, where one more level is left. -/
theorem reads_request {depth : Nat} {r : Request} (hd : 1 < depth)
    (hv : ∀ v ∈ r.value?, ∀ rest,
      Reads (RequestValue.read (depth - 1)) (compactChars v.toJson ++ rest) (some v) rest)
    (rest : List Char) : Reads (read depth) (compactChars r.toJson ++ rest) r rest := by
  obtain ⟨key, operator, value?⟩ := r
  cases value? with
  | none =>
    refine reads_record ⟨some key, some operator, none⟩ hd rfl fun other fuel hf => ?_
    obtain ⟨fuel, rfl⟩ := Nat.exists_eq_add_of_le' hf
    exact reads_keyMember (reads_operatorMember [] reads_fromMembers_end)
  | some v =>
    refine reads_record ⟨some key, some operator, some (some v)⟩ hd rfl
      fun other fuel hf => ?_
    obtain ⟨fuel, rfl⟩ := Nat.exists_eq_add_of_le' hf
    exact reads_keyMember (reads_operatorMember _
      (reads_valueMember [] (hv v rfl) reads_fromMembers_end))

/-- A list of requests as one JSON text. -/
def listText (rs : List Request) : String := (Json.list (rs.map toJson)).compact

theorem listOfText_listText {rs : List Request}
    (h : ∀ r ∈ rs, Writable r.operator r.value?) : listOfText (listText rs) = .ok rs := by
  have hlist :
      Reads (listOf depthLimit read) (compactChars (.list (rs.map toJson)) ++ []) rs [] := by
    refine reads_listOf (by decide) fun r hr => ⟨?_, fun rest => ?_⟩
    · exact ⟨'\x7b', _, by rw [toJson, compactChars]; rfl, by decide⟩
    · refine reads_request (by decide) (fun v hv rest => ?_) rest
      exact Writable.reads_value (by decide) (hv ▸ h r hr) rest
  rw [List.append_nil] at hlist
  exact readWhole_of_reads hlist

end Request

/-! ## Agreement -/

/-- Requests that both encodings can write, within the limits, are read back from either of them as
they are and in their order. -/
theorem encodings_agree {limits : Limits} {rs : List Request}
    (hnames : ∀ r ∈ rs, Bracketable r.key ∧ Bracketable r.operator)
    (hvalues : ∀ r ∈ rs, Writable r.operator r.value?)
    (hlists : rs.Pairwise fun r r' => ¬ r.Merges r')
    (hcount : rs.length ≤ limits.maxRequests)
    (hsize : (Request.listText rs).utf8ByteSize ≤ limits.maxJsonBytes) :
    intakeParams limits (rs.flatMap Request.pairs) = .ok rs ∧
      intakeJson limits (Request.listText rs) = .ok rs := by
  have hlimited : limited limits rs = .ok rs := if_neg (Nat.not_lt.2 hcount)
  have hparams : readParams [] (rs.flatMap Request.pairs) = .ok rs :=
    readParams_requests (fun r hr => ⟨(hnames r hr).1, (hnames r hr).2, hvalues r hr⟩) hlists
      (by simp)
  constructor
  · rw [intakeParams, hparams]
    exact hlimited
  · rw [intakeJson, if_neg (Nat.not_lt.2 hsize), Request.listOfText_listText hvalues]
    exact hlimited

/-- A null operator with a text, two lists of one key, and a key that holds what stands between
other parts of a name. -/
theorem encodings_agree_crowded_names :
    let rs : List Request :=
      [⟨"f[ü.a=b", Operator.isNull.token, none⟩,
       ⟨"paid_at", Operator.isNull.token, some (.scalar (.text "\n\"true\""))⟩,
       ⟨"status", Operator.among.token, some (.list [.text "", .text "né"])⟩,
       ⟨"status", Operator.notAmong.token, some (.list [.text "true"])⟩]
    intakeParams .standard (rs.flatMap Request.pairs) = .ok rs ∧
      intakeJson .standard (Request.listText rs) = .ok rs := by
  refine encodings_agree (by decide) ?_ (by decide) (by decide) (by decide +kernel)
  simp only [List.forall_mem_cons]
  exact ⟨.missing (by decide), .scalar _ (by decide) (by decide), .list _ [_], .list _ [],
    by simp⟩

end RowSieve.Filter
