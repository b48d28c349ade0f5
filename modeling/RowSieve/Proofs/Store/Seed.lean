/-
What adding the demo data does to a store. The rows are added one by one and none is taken back: the
first whose key or unique value is taken ends the run, and the rows before it stay. So a store
without invoices gets all of the demo data or only a front part of it, and a store that got only a
part is refused for good, since then the first customer is there already.
-/
import Mathlib.Data.List.Induction
import RowSieve.Proofs.Store.Inserts
import RowSieve.Store.Seed

namespace RowSieve.Store

/-! ## Rows added one after another -/

section Runs

variable {α : Type} {add : Database → α → Except Error Database} {rows : List α}

/-- A run of additions, where `put done` is the store with the rows `done`. Each row is added when
it is free and refused when it is not; so all rows are free and are added, or the first one that is
not ends the run. -/
theorem addEach_cases (put : List α → Database) (free : α → Prop) (e : α → Error)
    (hfree : ∀ done a rest, rows = done ++ a :: rest → free a →
      add (put done) a = .ok (put (done ++ [a])))
    (htaken : ∀ done a rest, rows = done ++ a :: rest → ¬free a →
      add (put done) a = .error (e a)) :
    (∀ a ∈ rows, free a) ∧ addEach add rows (put []) = (.ok (), put rows) ∨
      ∃ done a rest, rows = done ++ a :: rest ∧ (∀ x ∈ done, free x) ∧ ¬free a ∧
        addEach add rows (put []) = (.error (e a), put done) := by
  -- the rows that are left to add, those before them being free
  suffices h : ∀ left done, rows = done ++ left → (∀ x ∈ done, free x) →
      (∀ a ∈ rows, free a) ∧ addEach add left (put done) = (.ok (), put rows) ∨
        ∃ done' a rest, rows = done' ++ a :: rest ∧ (∀ x ∈ done', free x) ∧ ¬free a ∧
          addEach add left (put done) = (.error (e a), put done') from
    h rows [] rfl fun _ hx => nomatch hx
  intro left
  induction left with
  | nil =>
    intro done hrows hdone
    rw [List.append_nil] at hrows
    exact .inl ⟨hrows ▸ hdone, by rw [addEach, hrows]⟩
  | cons a left ih =>
    intro done hrows hdone
    by_cases ha : free a
    · have hnext := ih (done ++ [a]) (by rw [hrows, List.append_assoc]; rfl)
        (List.forall_mem_append.2 ⟨hdone, List.forall_mem_singleton.2 ha⟩)
      rwa [addEach, hfree done a left hrows ha]
    · exact .inr ⟨done, a, left, hrows, hdone, ha, by rw [addEach, htaken done a left hrows ha]⟩

/-- A run of rows that can all be added adds them. -/
theorem addEach_eq_put (put : List α → Database)
    (hadd : ∀ done a rest, rows = done ++ a :: rest → add (put done) a = .ok (put (done ++ [a]))) :
    addEach add rows (put []) = (.ok (), put rows) := by
  have hcases := addEach_cases put (fun _ => True) (fun _ => .closed)
    (fun done a rest h _ => hadd done a rest h) (fun _ _ _ _ h => absurd trivial h)
  rcases hcases with ⟨-, h⟩ | ⟨_, _, _, -, -, h, -⟩
  · exact h
  · exact absurd trivial h

/-- A row differs from those before it where all rows differ. -/
theorem ne_of_nodup_split {β : Type} {column : α → β} (h : (rows.map column).Nodup)
    {done rest : List α} {a : α} (hrows : rows = done ++ a :: rest) :
    ∀ x ∈ done, column x ≠ column a := by
  intro x hx
  rw [hrows, List.map_append, List.map_cons] at h
  exact (List.nodup_append.1 h).2.2 _ (List.mem_map_of_mem hx) _ (.head _)

end Runs

namespace Database

/-! ## Customers and products -/

/-- Whether the number of a customer is free. -/
def FreeCustomer (db : Database) (c : Customer) : Prop := ∀ x ∈ db.customers, x.id ≠ c.id

/-- Whether the number and the name of a product are free. -/
def FreeProduct (db : Database) (p : Product) : Prop :=
  (∀ x ∈ db.products, x.id ≠ p.id) ∧ ∀ x ∈ db.products, x.sku ≠ p.sku

section Demo

variable {db : Database}

theorem insertCustomer_eq_error {c : Customer} (hname : 1 ≤ textLength c.name)
    (hcountry : textLength c.countryCode = 2) (hstatus : c.status ∈ customerStatuses)
    (htaken : ¬db.FreeCustomer c) :
    db.insertCustomer c = .error (.statement (.primaryKey "customers" "id")) := by
  have hhas : db.hasCustomer c.id = true := by simpa [FreeCustomer, hasCustomer] using htaken
  simp [insertCustomer, require, hname, hcountry, hstatus, hhas, bind, Except.bind]

/-- What refuses a product: its number, or else its name. -/
def productRefusal (db : Database) (p : Product) : Error :=
  if db.hasProduct p.id then .statement (.primaryKey "products" "id")
  else .statement (.unique "products" "sku")

theorem insertProduct_eq_error {p : Product} (htaken : ¬db.FreeProduct p) :
    db.insertProduct p = .error (db.productRefusal p) := by
  unfold productRefusal
  by_cases hid : db.hasProduct p.id = true
  · simp [insertProduct, require, hid, bind, Except.bind]
  · have hsku : db.products.any (·.sku == p.sku) = true := by
      have hnone : ∀ x ∈ db.products, x.id ≠ p.id := by simpa [hasProduct] using hid
      have hsome : ¬∀ x ∈ db.products, x.sku ≠ p.sku := fun h => htaken ⟨hnone, h⟩
      simpa using hsome
    simp [insertProduct, require, hid, hsku, bind, Except.bind]

/-- The demo customers are added up to the first whose number is taken. -/
theorem addEach_demoCustomers (db : Database) :
    (∀ c ∈ demoCustomers, db.FreeCustomer c) ∧ addEach insertCustomer demoCustomers db =
        (.ok (), { db with customers := db.customers ++ demoCustomers }) ∨
      ∃ done c rest, demoCustomers = done ++ c :: rest ∧ (∀ x ∈ done, db.FreeCustomer x) ∧
        ¬db.FreeCustomer c ∧ addEach insertCustomer demoCustomers db =
          (.error (.statement (.primaryKey "customers" "id")),
            { db with customers := db.customers ++ done }) := by
  have hsound : ∀ c ∈ demoCustomers, 1 ≤ textLength c.name ∧ textLength c.countryCode = 2 ∧
      c.status ∈ customerStatuses := by decide
  have hids : (demoCustomers.map (·.id)).Nodup := by decide
  have hnone : { db with customers := db.customers ++ [] } = db := by rw [List.append_nil]
  have hcases := @addEach_cases _ insertCustomer demoCustomers
    (fun done => { db with customers := db.customers ++ done }) db.FreeCustomer
    (fun _ => .statement (.primaryKey "customers" "id")) ?_ ?_
  · rwa [hnone] at hcases
  · intro done c rest hrows hfree
    have hc := hsound c (by rw [hrows]; simp)
    exact insertCustomer_eq_ok.2 ⟨hc,
      List.forall_mem_append.2 ⟨hfree, ne_of_nodup_split hids hrows⟩, by rw [List.append_assoc]⟩
  · intro done c rest hrows htaken
    obtain ⟨hname, hcountry, hstatus⟩ := hsound c (by rw [hrows]; simp)
    exact insertCustomer_eq_error hname hcountry hstatus fun h =>
      htaken (List.forall_mem_append.1 h).1

/-- The demo products are added up to the first whose number or name is taken. -/
theorem addEach_demoProducts (db : Database) :
    (∀ p ∈ demoProducts, db.FreeProduct p) ∧ addEach insertProduct demoProducts db =
        (.ok (), { db with products := db.products ++ demoProducts }) ∨
      ∃ done p rest, demoProducts = done ++ p :: rest ∧ (∀ x ∈ done, db.FreeProduct x) ∧
        ¬db.FreeProduct p ∧ addEach insertProduct demoProducts db =
          (.error (db.productRefusal p), { db with products := db.products ++ done }) := by
  have hids : (demoProducts.map (·.id)).Nodup := by decide
  have hskus : (demoProducts.map (·.sku)).Nodup := by decide
  have hnone : { db with products := db.products ++ [] } = db := by rw [List.append_nil]
  have hcases := @addEach_cases _ insertProduct demoProducts
    (fun done => { db with products := db.products ++ done }) db.FreeProduct
    db.productRefusal ?_ ?_
  · rwa [hnone] at hcases
  · intro done p rest hrows hfree
    exact insertProduct_eq_ok.2 ⟨List.forall_mem_append.2 ⟨hfree.1, ne_of_nodup_split hids hrows⟩,
      List.forall_mem_append.2 ⟨hfree.2, ne_of_nodup_split hskus hrows⟩, by rw [List.append_assoc]⟩
  · intro done p rest hrows htaken
    have hother : done.any (·.id == p.id) = false := by
      simpa using ne_of_nodup_split hids hrows
    have hsame : hasProduct { db with products := db.products ++ done } p.id =
        db.hasProduct p.id := by
      rw [hasProduct, List.any_append, hother, Bool.or_false]
      rfl
    rw [insertProduct_eq_error fun h => htaken ⟨(List.forall_mem_append.1 h.1).1,
      (List.forall_mem_append.1 h.2).1⟩, productRefusal, hsame]
    rfl

/-! ## Invoices and their items -/

/-- The demo invoices find the customers that they name, and no other invoice. -/
theorem addEach_demoInvoices (hnone : db.invoices = [])
    (hcustomers : ∀ c ∈ demoCustomers, c ∈ db.customers) :
    addEach insertInvoice demoInvoices db = (.ok (), { db with invoices := demoInvoices }) := by
  have hsound : ∀ i ∈ demoInvoices, (i.totalAmount.isNaN = false ∧ i.status ∈ invoiceStatuses) ∧
      (∀ n ∈ i.customerId?, ∃ c ∈ demoCustomers, c.id = n) ∧
      storedReal i.totalAmount = i.totalAmount := by decide +kernel
  have hids : (demoInvoices.map (·.id)).Nodup := by decide
  have hnumbers : (demoInvoices.map (·.number)).Nodup := by decide
  have hput : { db with invoices := [] } = db := by rw [← hnone]
  have hall := @addEach_eq_put _ insertInvoice demoInvoices
    (fun done => { db with invoices := done }) ?_
  · rwa [hput] at hall
  · intro done i rest hrows
    obtain ⟨hi, hnamed, hstored⟩ := hsound i (by rw [hrows]; simp)
    refine insertInvoice_eq_ok.2 ⟨hi, ne_of_nodup_split hids hrows,
      ne_of_nodup_split hnumbers hrows, fun n hn => ?_, by rw [hstored]⟩
    obtain ⟨c, hc, hcn⟩ := hnamed n hn
    exact ⟨c, hcustomers c hc, hcn⟩

/-- Items as a store without any holds them: numbered from one. -/
def numbered (items : List NewLineItem) : List LineItem :=
  items.zipIdx.map fun (l, n) =>
    ⟨n + 1, l.invoiceId, l.productId?, l.productName, l.quantity, l.unitPrice⟩

theorem numbered_append_singleton (items : List NewLineItem) (l : NewLineItem) :
    numbered (items ++ [l]) = numbered items ++ [⟨items.length + 1, l.invoiceId, l.productId?,
      l.productName, l.quantity, l.unitPrice⟩] := by
  simp [numbered, List.zipIdx_append]

theorem nextItemId_numbered (items : List NewLineItem) :
    nextItemId { db with lineItems := numbered items } = items.length + 1 := by
  induction items using List.reverseRecOn with
  | nil => rfl
  | append_singleton items l ih =>
    simp only [nextItemId, numbered_append_singleton, List.foldl_append, List.foldl_cons,
      List.foldl_nil, List.length_append, List.length_singleton] at ih ⊢
    omega

/-- The demo items find the invoices and products that they name, and no other item. -/
theorem addEach_demoLineItems (hnone : db.lineItems = [])
    (hinvoices : ∀ i ∈ demoInvoices, i ∈ db.invoices)
    (hproducts : ∀ p ∈ demoProducts, p ∈ db.products) :
    addEach (fun db l => (insertLineItem db l).map (·.2)) demoLineItems db =
      (.ok (), { db with lineItems := numbered demoLineItems }) := by
  have hsound : ∀ l ∈ demoLineItems, (l.unitPrice.isNaN = false ∧ 0 < l.quantity) ∧
      (∃ i ∈ demoInvoices, i.id = l.invoiceId) ∧
      (∀ n ∈ l.productId?, ∃ p ∈ demoProducts, p.id = n) ∧
      storedReal l.unitPrice = l.unitPrice := by decide +kernel
  have hput : { db with lineItems := numbered [] } = db := by
    rw [show numbered [] = [] from rfl, ← hnone]
  have hall := @addEach_eq_put _ (fun db l => (insertLineItem db l).map (·.2)) demoLineItems
    (fun done => { db with lineItems := numbered done }) ?_
  · rwa [hput] at hall
  · intro done l rest hrows
    obtain ⟨hl, ⟨i, hi, hil⟩, hproduct, hstored⟩ := hsound l (by rw [hrows]; simp)
    refine insert_lineItem_eq_ok.2 ⟨_, insertLineItem_eq_ok.2 ⟨hl, ⟨i, hinvoices i hi, hil⟩,
      fun k hk => ?_, rfl, ?_⟩⟩
    · obtain ⟨p, hp, hpk⟩ := hproduct k hk
      exact ⟨p, hproducts p hp, hpk⟩
    · rw [nextItemId_numbered, hstored, numbered_append_singleton]

/-! ## Ends of the run -/

/-- The store with the demo data behind what it holds. -/
def withDemo (db : Database) : Database :=
  ⟨db.customers ++ demoCustomers, db.products ++ demoProducts, db.invoices ++ demoInvoices,
    db.lineItems ++ numbered demoLineItems⟩

/-- How adding the demo data to a store ends, and what the store then holds. -/
inductive SeedEnds (db : Database) : Except Error Bool → Database → Prop where
  /-- There are invoices. -/
  | present : db.invoices ≠ [] → SeedEnds db (.ok false) db
  /-- The number of a customer is taken; those before it stay. -/
  | customerTaken {done rest : List Customer} {c : Customer} : db.invoices = [] →
      demoCustomers = done ++ c :: rest → (∀ x ∈ done, db.FreeCustomer x) → ¬db.FreeCustomer c →
      SeedEnds db (.error (.statement (.primaryKey "customers" "id")))
        { db with customers := db.customers ++ done }
  /-- The number or the name of a product is taken; the products before it and all customers
  stay. -/
  | productTaken {done rest : List Product} {p : Product} : db.invoices = [] →
      (∀ x ∈ demoCustomers, db.FreeCustomer x) → demoProducts = done ++ p :: rest →
      (∀ x ∈ done, db.FreeProduct x) → ¬db.FreeProduct p →
      SeedEnds db (.error (db.productRefusal p))
        { db with customers := db.customers ++ demoCustomers, products := db.products ++ done }
  /-- All numbers and names are free. -/
  | added : db.invoices = [] → (∀ x ∈ demoCustomers, db.FreeCustomer x) →
      (∀ x ∈ demoProducts, db.FreeProduct x) → SeedEnds db (.ok true) db.withDemo

/-- A store that keeps the rules has no items without invoices. -/
theorem Sound.lineItems_eq_nil (h : db.Sound) (hnone : db.invoices = []) : db.lineItems = [] := by
  refine List.eq_nil_iff_forall_not_mem.2 fun l hl => ?_
  obtain ⟨i, hi, -⟩ := (h.lineItems l hl).invoice
  rw [hnone] at hi
  cases hi

theorem seed_of_invoices (h : db.invoices ≠ []) : db.seed = (.ok false, db) := by
  rw [seed, if_pos (by simpa using h)]

theorem seed_ends (h : db.Sound) : db.SeedEnds db.seed.1 db.seed.2 := by
  by_cases hnone : db.invoices = []
  case neg =>
    rw [seed_of_invoices hnone]
    exact .present hnone
  rw [seed, if_neg (by simp [hnone])]
  rcases addEach_demoCustomers db with
    ⟨hcustomers, hrun⟩ | ⟨done, c, rest, hrows, hdone, hc, hrun⟩
  case inr =>
    rw [hrun]
    exact .customerTaken hnone hrows hdone hc
  rw [hrun]
  rcases addEach_demoProducts { db with customers := db.customers ++ demoCustomers } with
    ⟨hproducts, hrun⟩ | ⟨done, p, rest, hrows, hdone, hp, hrun⟩
  case inr =>
    simp only [next, hrun]
    exact .productTaken hnone hcustomers hrows hdone hp
  -- from here on nothing is refused: what the invoices and items name has just been added
  have hinvoices := @addEach_demoInvoices
    { db with customers := db.customers ++ demoCustomers, products := db.products ++ demoProducts }
    hnone fun c hc => List.mem_append_right _ hc
  have hitems := @addEach_demoLineItems
    ⟨db.customers ++ demoCustomers, db.products ++ demoProducts, demoInvoices, db.lineItems⟩
    (h.lineItems_eq_nil hnone) (fun _ hi => hi) fun p hp => List.mem_append_right _ hp
  simp only [next, hrun, hinvoices, hitems]
  have hadded := SeedEnds.added hnone hcustomers hproducts
  rwa [withDemo, hnone, h.lineItems_eq_nil hnone] at hadded

/-- A store that has the first customer but no invoices gets none of the demo data. -/
theorem seed_of_first_taken (hnone : db.invoices = []) (hfirst : ∃ x ∈ db.customers, x.id = 1) :
    db.seed = (.error (.statement (.primaryKey "customers" "id")), db) := by
  have hrefused : addEach insertCustomer demoCustomers db =
      (.error (.statement (.primaryKey "customers" "id")), db) := by
    rw [demoCustomers, addEach, insertCustomer_eq_error (by decide) (by decide) (by decide)]
    simpa [FreeCustomer] using hfirst
  rw [seed, if_neg (by simp [hnone])]
  simp only [next, hrefused]
  rfl

/-- A refusal leaves the first customer in the store, and no invoices. -/
theorem SeedEnds.first_taken {e : Error} {db' : Database} (h : db.SeedEnds (.error e) db') :
    db.invoices = [] ∧ db'.invoices = [] ∧ ∃ x ∈ db'.customers, x.id = 1 := by
  cases h with
  | @customerTaken done rest c hnone hrows _ hc =>
    refine ⟨hnone, hnone, ?_⟩
    cases done with
    | nil =>
      obtain ⟨rfl, -⟩ := List.cons_eq_cons.1 hrows
      rw [List.append_nil]
      simpa [FreeCustomer] using hc
    | cons first done =>
      obtain ⟨rfl, -⟩ := List.cons_eq_cons.1 hrows
      exact ⟨_, List.mem_append_right _ (.head _), rfl⟩
  | productTaken hnone =>
    exact ⟨hnone, hnone, _, List.mem_append_right _ (.head _), rfl⟩

/-- Adding the demo data is not undone when it fails. A store with invoices is left as it is, and
the call answers that nothing was added. Otherwise either all demo data is added behind what the
store holds, and a second call changes nothing, or a number or name is taken and the rows before the
one that is refused stay in the store. The tables are then as before just when the first customer
was there, and every later attempt fails at this customer. -/
theorem seed_is_not_undone (h : db.Reachable) :
    db.SeedEnds db.seed.1 db.seed.2 ∧
    (db.seed = (.ok false, db) ↔ db.invoices ≠ []) ∧
    (∀ db', db.seed = (.ok true, db') → db' = db.withDemo ∧ db'.seed = (.ok false, db')) ∧
    ∀ e db', db.seed = (.error e, db') →
      (db' = db ↔ ∃ x ∈ db.customers, x.id = 1) ∧
      db'.seed = (.error (.statement (.primaryKey "customers" "id")), db') := by
  have hends := seed_ends h.sound
  refine ⟨hends, ⟨fun hseed => ?_, seed_of_invoices⟩, fun db' hseed => ?_, fun e db' hseed => ?_⟩
  all_goals rw [hseed] at hends
  · cases hends with
    | present hsome => exact hsome
  · cases hends with
    | added => exact ⟨rfl, seed_of_invoices (by simp [demoInvoices])⟩
  · obtain ⟨hnone, hnone', hfirst⟩ := hends.first_taken
    refine ⟨⟨fun hsame => hsame ▸ hfirst, fun htaken => ?_⟩, seed_of_first_taken hnone' hfirst⟩
    rw [seed_of_first_taken hnone htaken] at hseed
    exact (Prod.ext_iff.1 hseed).2.symm

/-- A store of one product that has the name of the second demo product, but another number, keeps
the demo customers and the first demo product. -/
theorem seed_is_not_undone_product_name :
    let db : Database := ⟨[], [⟨9, "GAD-1", "hardware"⟩], [], []⟩
    let db' : Database :=
      ⟨demoCustomers, [⟨9, "GAD-1", "hardware"⟩, ⟨1, "WID-1", "hardware"⟩], [], []⟩
    db.Reachable ∧ db.seed = (.error (.statement (.unique "products" "sku")), db') ∧ db' ≠ db ∧
      db'.seed = (.error (.statement (.primaryKey "customers" "id")), db') := by
  intro db db'
  have hreach : db.Reachable := .insert (.product ⟨9, "GAD-1", "hardware"⟩) .empty rfl
  have hseed : db.seed = (.error (.statement (.unique "products" "sku")), db') := rfl
  obtain ⟨-, -, -, hrefused⟩ := seed_is_not_undone hreach
  obtain ⟨hsame, hagain⟩ := hrefused _ _ hseed
  refine ⟨hreach, hseed, fun h => ?_, hagain⟩
  obtain ⟨x, hx, -⟩ := hsame.1 h
  cases hx

/-- A refusal does not leave the tables as they were. -/
theorem seed_stops_half_way :
    ¬∀ db : Database, db.Reachable → ∀ e db', db.seed = (.error e, db') → db' = db := by
  intro hall
  have hreach : Reachable ⟨[], [⟨9, "GAD-1", "hardware"⟩], [], []⟩ :=
    .insert (.product ⟨9, "GAD-1", "hardware"⟩) .empty rfl
  have hsame := hall _ hreach _ _ rfl
  exact absurd (congrArg customers hsame) (by decide)

end Demo

end Database

end RowSieve.Store
