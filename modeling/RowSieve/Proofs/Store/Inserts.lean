/-
Databases that adding rows leads to. What an insertion adds is one row of one table, and it does so
exactly when the store keeps the rules of the schema with that row: distinct keys and unique values,
references to rows that are there, and what each row is checked for. So every store that insertions
lead to keeps them.
-/
import Mathlib.Data.List.Nodup
import RowSieve.Store.Insert

namespace RowSieve.Store

/-- A row to be added. -/
inductive NewRow where
  | customer (c : Customer)
  | product (p : Product)
  | invoice (i : Invoice)
  | lineItem (l : NewLineItem)

namespace Database

/-- Adds a row of any table. -/
def insert (db : Database) : NewRow → Except Error Database
  | .customer c => db.insertCustomer c
  | .product p => db.insertProduct p
  | .invoice i => db.insertInvoice i
  | .lineItem l => (db.insertLineItem l).map (·.2)

/-- The databases that insertions lead to from the empty one. -/
inductive Reachable : Database → Prop where
  | empty : Reachable .empty
  | insert {db db' : Database} (row : NewRow) : Reachable db → db.insert row = .ok db' →
      Reachable db'

/-! ## What an insertion does -/

section Insertion

variable {db db' : Database}

theorem require_bind_eq_ok {α : Type} {kept : Bool} {p : Problem} {f : Unit → Except Error α}
    {a : α} : (require kept p >>= f) = .ok a ↔ kept = true ∧ f () = .ok a := by
  cases kept with
  | true => exact (and_iff_right rfl).symm
  | false => exact ⟨fun h => (by cases h), fun h => (by cases h.1)⟩

theorem pure_eq_ok {α : Type} {a b : α} : (pure a : Except Error α) = .ok b ↔ b = a := by
  constructor
  · rintro ⟨⟩
    rfl
  · rintro rfl
    rfl

theorem insertCustomer_eq_ok {c : Customer} : db.insertCustomer c = .ok db' ↔
    (1 ≤ textLength c.name ∧ textLength c.countryCode = 2 ∧ c.status ∈ customerStatuses) ∧
      (∀ x ∈ db.customers, x.id ≠ c.id) ∧
      db' = { db with customers := db.customers ++ [c] } := by
  simp only [insertCustomer, require_bind_eq_ok, pure_eq_ok]
  simp [hasCustomer, and_assoc]

theorem insertProduct_eq_ok {p : Product} : db.insertProduct p = .ok db' ↔
    (∀ x ∈ db.products, x.id ≠ p.id) ∧ (∀ x ∈ db.products, x.sku ≠ p.sku) ∧
      db' = { db with products := db.products ++ [p] } := by
  simp only [insertProduct, require_bind_eq_ok, pure_eq_ok]
  simp [hasProduct]

theorem insertInvoice_eq_ok {i : Invoice} : db.insertInvoice i = .ok db' ↔
    (i.totalAmount.isNaN = false ∧ i.status ∈ invoiceStatuses) ∧
      (∀ x ∈ db.invoices, x.id ≠ i.id) ∧ (∀ x ∈ db.invoices, x.number ≠ i.number) ∧
      (∀ n, i.customerId? = some n → ∃ c ∈ db.customers, c.id = n) ∧
      db' = { db with
        invoices := db.invoices ++ [{ i with totalAmount := storedReal i.totalAmount }] } := by
  simp only [insertInvoice, require_bind_eq_ok, pure_eq_ok]
  simp [hasInvoice, hasCustomer, and_assoc, Option.all_eq_true]

theorem insertLineItem_eq_ok {l : NewLineItem} {n : Int} :
    db.insertLineItem l = .ok (n, db') ↔
      (l.unitPrice.isNaN = false ∧ 0 < l.quantity) ∧
      (∃ i ∈ db.invoices, i.id = l.invoiceId) ∧
      (∀ k, l.productId? = some k → ∃ p ∈ db.products, p.id = k) ∧
      n = db.nextItemId ∧ db' = { db with lineItems := db.lineItems ++ [⟨db.nextItemId,
        l.invoiceId, l.productId?, l.productName, l.quantity, storedReal l.unitPrice⟩] } := by
  simp only [insertLineItem, require_bind_eq_ok, pure_eq_ok]
  simp [hasInvoice, hasProduct, and_assoc, Option.all_eq_true]

theorem insert_lineItem_eq_ok {l : NewLineItem} :
    db.insert (.lineItem l) = .ok db' ↔ ∃ n, db.insertLineItem l = .ok (n, db') := by
  rw [insert]
  cases db.insertLineItem l with
  | error e => simp [Except.map]
  | ok added => simp [Except.map, Prod.ext_iff]

end Insertion

/-! ## Rules of the schema -/

end Database

/-- What the schema demands of a customer by itself. -/
structure Customer.Sound (c : Customer) : Prop where
  name : 1 ≤ textLength c.name
  countryCode : textLength c.countryCode = 2
  status : c.status ∈ ["A", "I"]

/-- What the schema demands of an invoice among customers. -/
structure Invoice.Sound (customers : List Customer) (i : Invoice) : Prop where
  status : i.status ∈ ["D", "S", "P", "V"]
  totalAmount : i.totalAmount.isNaN = false
  paidAt : i.cell "paid_at" ≠ .null
  isRecurring : i.cell "is_recurring" = .integer 0 ∨ i.cell "is_recurring" = .integer 1
  customer : ∀ n, i.customerId? = some n → ∃ c ∈ customers, c.id = n

/-- What the schema demands of an item among invoices and products. -/
structure LineItem.Sound (invoices : List Invoice) (products : List Product) (l : LineItem) :
    Prop where
  quantity : 0 < l.quantity
  unitPrice : l.unitPrice.isNaN = false
  invoice : ∃ i ∈ invoices, i.id = l.invoiceId
  product : ∀ n, l.productId? = some n → ∃ p ∈ products, p.id = n

namespace Database

/-- The rules of the schema: keys and unique values are distinct, and each row is sound. -/
structure Sound (db : Database) : Prop where
  customerIds : (db.customers.map (·.id)).Nodup
  productIds : (db.products.map (·.id)).Nodup
  invoiceIds : (db.invoices.map (·.id)).Nodup
  lineItemIds : (db.lineItems.map (·.id)).Nodup
  skus : (db.products.map (·.sku)).Nodup
  numbers : (db.invoices.map (·.number)).Nodup
  customers : ∀ c ∈ db.customers, c.Sound
  invoices : ∀ i ∈ db.invoices, i.Sound db.customers
  lineItems : ∀ l ∈ db.lineItems, l.Sound db.invoices db.products

/-- The store with a row behind those of its table: the values are those given, but that a zero
has no sign, and an item has the next number. -/
def grown (db : Database) : NewRow → Database
  | .customer c => { db with customers := db.customers ++ [c] }
  | .product p => { db with products := db.products ++ [p] }
  | .invoice i =>
    { db with invoices := db.invoices ++ [{ i with totalAmount := storedReal i.totalAmount }] }
  | .lineItem l =>
    { db with lineItems := db.lineItems ++ [⟨db.nextItemId, l.invoiceId, l.productId?,
        l.productName, l.quantity, storedReal l.unitPrice⟩] }

end Database

section Rows

variable {customers customers' : List Customer} {invoices invoices' : List Invoice}
  {products products' : List Product}

theorem isNaN_storedReal (x : Binary64) : (storedReal x).isNaN = x.isNaN := by
  unfold storedReal
  split
  case isFalse => rfl
  case isTrue h =>
    have hzero : x.magnitude = 0 := of_decide_eq_true h
    simp only [Binary64.isNaN, hzero]
    decide

/-- The number that is stored is the one given. -/
theorem compareTo_storedReal (x : Binary64) : (storedReal x).compareTo x = .eq := by
  unfold storedReal Binary64.compareTo
  rw [Std.LawfulEqOrd.compare_eq_iff_eq]
  split
  case isFalse => rfl
  case isTrue h =>
    have hzero : x.magnitude = 0 := of_decide_eq_true h
    have hscale : x.signedScale = 0 := by
      simp [Binary64.signedScale, Binary64.scale, hzero, Binary64.scaleOf]
    rw [hscale]
    decide

/-- Each invoice has an instant of payment, be it none, and recurs or does not. -/
theorem Invoice.sound_iff {i : Invoice} : i.Sound customers ↔
    i.status ∈ ["D", "S", "P", "V"] ∧ i.totalAmount.isNaN = false ∧
      ∀ n, i.customerId? = some n → ∃ c ∈ customers, c.id = n := by
  refine ⟨fun h => ⟨h.status, h.totalAmount, h.customer⟩, fun ⟨hs, ht, hc⟩ => ⟨hs, ht, ?_, ?_, hc⟩⟩
  · intro h
    cases h
  · change Sql.Cell.integer (if i.isRecurring then 1 else 0) = _ ∨
      Sql.Cell.integer (if i.isRecurring then 1 else 0) = _
    cases i.isRecurring with
    | false => exact .inl rfl
    | true => exact .inr rfl

theorem Invoice.Sound.mono {i : Invoice} (h : i.Sound customers) (hc : customers ⊆ customers') :
    i.Sound customers' :=
  { h with customer := fun n hn => (h.customer n hn).imp fun _ hm => ⟨hc hm.1, hm.2⟩ }

theorem LineItem.Sound.mono {l : LineItem} (h : l.Sound invoices products)
    (hi : invoices ⊆ invoices') (hp : products ⊆ products') : l.Sound invoices' products' :=
  { h with
    invoice := h.invoice.imp fun _ hm => ⟨hi hm.1, hm.2⟩
    product := fun n hn => (h.product n hn).imp fun _ hm => ⟨hp hm.1, hm.2⟩ }

end Rows

namespace Database

section Sound

variable {db db' : Database}

theorem Sound.empty : Sound .empty := by
  constructor <;> simp [Database.empty]

/-- A row behind others keeps the values of a column distinct just when its own is new. -/
theorem nodup_append_iff {α β : Type} {column : α → β} {rows : List α} {row : α} :
    ((rows ++ [row]).map column).Nodup ↔
      (rows.map column).Nodup ∧ ∀ r ∈ rows, column r ≠ column row := by
  rw [List.map_append, List.map_singleton, List.nodup_append]
  simp

theorem lt_nextItemId : ∀ l ∈ db.lineItems, l.id < db.nextItemId := by
  have hmax : ∀ (rows : List LineItem) (m : Int),
      m ≤ rows.foldl (fun m l => max m l.id) m ∧
        ∀ l ∈ rows, l.id ≤ rows.foldl (fun m l => max m l.id) m := by
    intro rows
    induction rows with
    | nil => simp
    | cons row rows ih =>
      intro m
      obtain ⟨hm, hrows⟩ := ih (max m row.id)
      rw [List.foldl_cons, List.forall_mem_cons]
      exact ⟨by omega, by omega, hrows⟩
  intro l hl
  exact Int.lt_add_one_of_le ((hmax db.lineItems 0).2 l hl)

/-! ## Rows that keep the rules -/

theorem sound_grown_customer (h : db.Sound) {c : Customer} :
    (db.grown (.customer c)).Sound ↔ c.Sound ∧ ∀ x ∈ db.customers, x.id ≠ c.id := by
  constructor
  · intro hs
    exact ⟨hs.customers c (by simp [grown]), (nodup_append_iff.1 hs.customerIds).2⟩
  · rintro ⟨hc, hnew⟩
    exact { h with
      customerIds := nodup_append_iff.2 ⟨h.customerIds, hnew⟩
      customers := List.forall_mem_append.2 ⟨h.customers, List.forall_mem_singleton.2 hc⟩
      invoices := fun i hi => (h.invoices i hi).mono (List.subset_append_left _ _) }

theorem sound_grown_product (h : db.Sound) {p : Product} :
    (db.grown (.product p)).Sound ↔
      (∀ x ∈ db.products, x.id ≠ p.id) ∧ ∀ x ∈ db.products, x.sku ≠ p.sku := by
  constructor
  · intro hs
    exact ⟨(nodup_append_iff.1 hs.productIds).2, (nodup_append_iff.1 hs.skus).2⟩
  · rintro ⟨hid, hsku⟩
    exact { h with
      productIds := nodup_append_iff.2 ⟨h.productIds, hid⟩
      skus := nodup_append_iff.2 ⟨h.skus, hsku⟩
      lineItems := fun l hl =>
        (h.lineItems l hl).mono (List.Subset.refl _) (List.subset_append_left _ _) }

theorem sound_grown_invoice (h : db.Sound) {i : Invoice} :
    (db.grown (.invoice i)).Sound ↔ i.Sound db.customers ∧
      (∀ x ∈ db.invoices, x.id ≠ i.id) ∧ ∀ x ∈ db.invoices, x.number ≠ i.number := by
  have hstored : Invoice.Sound db.customers { i with totalAmount := storedReal i.totalAmount } ↔
      i.Sound db.customers := by
    rw [Invoice.sound_iff, Invoice.sound_iff, isNaN_storedReal]
  constructor
  · intro hs
    exact ⟨hstored.1 (hs.invoices _ (by simp [grown])), (nodup_append_iff.1 hs.invoiceIds).2,
      (nodup_append_iff.1 hs.numbers).2⟩
  · rintro ⟨hi, hid, hnumber⟩
    exact { h with
      invoiceIds := nodup_append_iff.2 ⟨h.invoiceIds, hid⟩
      numbers := nodup_append_iff.2 ⟨h.numbers, hnumber⟩
      invoices := List.forall_mem_append.2
        ⟨h.invoices, List.forall_mem_singleton.2 (hstored.2 hi)⟩
      lineItems := fun l hl =>
        (h.lineItems l hl).mono (List.subset_append_left _ _) (List.Subset.refl _) }

theorem sound_grown_lineItem (h : db.Sound) {l : NewLineItem} :
    (db.grown (.lineItem l)).Sound ↔ (l.unitPrice.isNaN = false ∧ 0 < l.quantity) ∧
      (∃ i ∈ db.invoices, i.id = l.invoiceId) ∧
      ∀ k, l.productId? = some k → ∃ p ∈ db.products, p.id = k := by
  constructor
  · intro hs
    have hl := hs.lineItems _ (List.mem_append_right _ List.mem_cons_self)
    exact ⟨⟨(isNaN_storedReal _).symm.trans hl.unitPrice, hl.quantity⟩, hl.invoice, hl.product⟩
  · rintro ⟨⟨hprice, hquantity⟩, hinvoice, hproduct⟩
    exact { h with
      lineItemIds := nodup_append_iff.2
        ⟨h.lineItemIds, fun x hx => Int.ne_of_lt (lt_nextItemId x hx)⟩
      lineItems := List.forall_mem_append.2 ⟨h.lineItems, List.forall_mem_singleton.2
        ⟨hquantity, (isNaN_storedReal _).trans hprice, hinvoice, hproduct⟩⟩ }

/-- A row is added just when the store keeps the rules with it. -/
theorem insert_eq_ok (h : db.Sound) {row : NewRow} :
    db.insert row = .ok db' ↔ (db.grown row).Sound ∧ db' = db.grown row := by
  cases row with
  | customer c =>
    rw [sound_grown_customer h, Database.insert, insertCustomer_eq_ok]
    constructor
    · rintro ⟨⟨hname, hcountry, hstatus⟩, hid, rfl⟩
      exact ⟨⟨⟨hname, hcountry, hstatus⟩, hid⟩, rfl⟩
    · rintro ⟨⟨hc, hid⟩, rfl⟩
      exact ⟨⟨hc.name, hc.countryCode, hc.status⟩, hid, rfl⟩
  | product p =>
    rw [sound_grown_product h, Database.insert, insertProduct_eq_ok, and_assoc]
    rfl
  | invoice i =>
    rw [sound_grown_invoice h, Database.insert, insertInvoice_eq_ok, Invoice.sound_iff]
    constructor
    · rintro ⟨⟨hnan, hstatus⟩, hid, hnumber, hcustomer, rfl⟩
      exact ⟨⟨⟨hstatus, hnan, hcustomer⟩, hid, hnumber⟩, rfl⟩
    · rintro ⟨⟨⟨hstatus, hnan, hcustomer⟩, hid, hnumber⟩, rfl⟩
      exact ⟨⟨hnan, hstatus⟩, hid, hnumber, hcustomer, rfl⟩
  | lineItem l =>
    rw [sound_grown_lineItem h, insert_lineItem_eq_ok]
    simp only [insertLineItem_eq_ok]
    constructor
    · rintro ⟨_, hl, hi, hp, -, rfl⟩
      exact ⟨⟨hl, hi, hp⟩, rfl⟩
    · rintro ⟨⟨hl, hi, hp⟩, rfl⟩
      exact ⟨_, hl, hi, hp, rfl, rfl⟩

theorem Sound.insert {row : NewRow} (h : db.Sound) (hins : db.insert row = .ok db') :
    db'.Sound := by
  obtain ⟨hs, rfl⟩ := (insert_eq_ok h).1 hins
  exact hs

theorem Reachable.sound (h : db.Reachable) : db.Sound := by
  induction h with
  | empty => exact Sound.empty
  | insert row _ h ih => exact ih.insert h

end Sound

/-! ## Distinct keys -/

/-- No two customers and no two invoices have the same key. -/
structure Keyed (db : Database) : Prop where
  customers : (db.customers.map (·.id)).Nodup
  invoices : (db.invoices.map (·.id)).Nodup

theorem Reachable.keyed {db : Database} (h : db.Reachable) : db.Keyed :=
  ⟨h.sound.customerIds, h.sound.invoiceIds⟩

end Database

end RowSieve.Store
