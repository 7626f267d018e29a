import FluentSql.Number.Binary64

/-!
# Documents

JSON documents. The fields of an object are kept in a list; a document is ordered
when in every object the keys ascend strictly, and `normalize` brings any document
into that form, the last of several fields with one key winning. `OrderedDocument`
packages a document with the property.
-/

namespace FluentSql

/-- The integers a document can hold. -/
abbrev WideInt := { i : Int // -0x8000000000000000 ≤ i ∧ i < 0x10000000000000000 }

inductive Document where
  | null
  | bool (b : Bool)
  | integer (i : WideInt)
  | float (x : Binary64)
  | string (s : String)
  | array (items : List Document)
  | object (fields : List (String × Document))
  deriving Inhabited

namespace Document

def ofInt64 (i : Int64) : Document :=
  .integer ⟨i.toInt, by have := i.le_toInt; have := i.toInt_lt; omega⟩

def ofUInt8 (n : UInt8) : Document :=
  .integer ⟨n.toNat, by have := n.toNat_lt; omega⟩

def ofUInt64 (n : UInt64) : Document :=
  .integer ⟨n.toNat, by have := n.toNat_lt; omega⟩

/-- A number that is not finite has no place in a document and becomes null. -/
def ofFloat (x : Binary64) : Document :=
  if x.isFinite then .float x else .null

/-- Puts a field into a list with ascending keys, in place of one with the same key. -/
def putField (key : String) (value : Document) :
    List (String × Document) → List (String × Document)
  | [] => [(key, value)]
  | (k, v) :: rest =>
    if key = k then (key, value) :: rest
    else if key < k then (key, value) :: (k, v) :: rest
    else (k, v) :: putField key value rest

/-- The fields by ascending key; of several with one key the last stays. -/
def sortFields (fields : List (String × Document)) : List (String × Document) :=
  fields.foldl (fun sorted field => putField field.1 field.2 sorted) []

/-- The value of the first field with the key. -/
def field? (key : String) : List (String × Document) → Option Document
  | [] => none
  | (k, v) :: rest => if k = key then some v else field? key rest

mutual

/-- Equality of documents with numbers compared by value. -/
def same : Document → Document → Bool
  | .null, .null => true
  | .bool a, .bool b => a == b
  | .integer i, .integer j => i.val == j.val
  | .float x, .float y => x.eqv y
  | .string s, .string t => s == t
  | .array xs, .array ys => sameItems xs ys
  | .object xs, .object ys => sameFields xs ys
  | _, _ => false

def sameItems : List Document → List Document → Bool
  | [], [] => true
  | x :: xs, y :: ys => same x y && sameItems xs ys
  | _, _ => false

def sameFields : List (String × Document) → List (String × Document) → Bool
  | [], [] => true
  | (k, x) :: xs, (l, y) :: ys => k == l && same x y && sameFields xs ys
  | _, _ => false

end

mutual

def normalize : Document → Document
  | .array items => .array (normalizeItems items)
  | .object fields => .object (sortFields (normalizeFields fields))
  | .null => .null
  | .bool b => .bool b
  | .integer i => .integer i
  | .float x => .float x
  | .string s => .string s

def normalizeItems : List Document → List Document
  | [] => []
  | x :: xs => normalize x :: normalizeItems xs

def normalizeFields : List (String × Document) → List (String × Document)
  | [] => []
  | (k, x) :: xs => (k, normalize x) :: normalizeFields xs

end

/-- Each key is below the next one. -/
def keysAscend : List (String × Document) → Bool
  | [] => true
  | [_] => true
  | (k, _) :: (l, y) :: rest => decide (k < l) && keysAscend ((l, y) :: rest)

mutual

/-- The keys of every object ascend. -/
def isOrdered : Document → Bool
  | .array items => itemsOrdered items
  | .object fields => keysAscend fields && fieldsOrdered fields
  | .null => true
  | .bool _ => true
  | .integer _ => true
  | .float _ => true
  | .string _ => true

def itemsOrdered : List Document → Bool
  | [] => true
  | x :: xs => isOrdered x && itemsOrdered xs

def fieldsOrdered : List (String × Document) → Bool
  | [] => true
  | (_, x) :: xs => isOrdered x && fieldsOrdered xs

end

theorem keysAscend_cons (k : String) (x : Document) (rest : List (String × Document)) :
    keysAscend ((k, x) :: rest) =
      ((rest.head?.all fun f => decide (k < f.1)) && keysAscend rest) := by
  cases rest with
  | nil => rfl
  | cons f rest => rfl

theorem head?_putField (key : String) (value : Document) (fields : List (String × Document))
    (low : String) (hkey : low < key) (hlow : fields.head?.all (fun f => decide (low < f.1))) :
    (putField key value fields).head?.all (fun f => decide (low < f.1)) := by
  cases fields with
  | nil => simpa [putField] using hkey
  | cons f rest =>
    obtain ⟨k, v⟩ := f
    simp only [List.head?_cons, Option.all_some, decide_eq_true_eq] at hlow
    unfold putField
    split
    · simpa using hkey
    · split
      · simpa using hkey
      · simpa using hlow

theorem keysAscend_putField (key : String) (value : Document)
    (fields : List (String × Document)) (h : keysAscend fields) :
    keysAscend (putField key value fields) := by
  induction fields with
  | nil => rfl
  | cons f rest ih =>
    obtain ⟨k, v⟩ := f
    rw [keysAscend_cons, Bool.and_eq_true] at h
    unfold putField
    split
    · next he => subst he; rw [keysAscend_cons, h.1, h.2]; rfl
    · next hne =>
      split
      · next hlt =>
        rw [keysAscend_cons, keysAscend_cons, h.1, h.2]
        simpa using hlt
      · next hge =>
        have hkk : k < key := Std.lt_of_le_of_ne (String.not_lt.1 hge) (Ne.symm hne)
        rw [keysAscend_cons, ih h.2, head?_putField key value rest k hkk h.1]
        rfl

theorem fieldsOrdered_putField (key : String) (value : Document)
    (fields : List (String × Document)) (hv : value.isOrdered) (h : fieldsOrdered fields) :
    fieldsOrdered (putField key value fields) := by
  induction fields with
  | nil => simp [putField, fieldsOrdered, hv]
  | cons f rest ih =>
    obtain ⟨k, v⟩ := f
    simp only [fieldsOrdered, Bool.and_eq_true] at h
    unfold putField
    split
    · simp [fieldsOrdered, hv, h.2]
    · split
      · simp [fieldsOrdered, hv, h.1, h.2]
      · simp [fieldsOrdered, h.1, ih h.2]

theorem sortFields_ordered (fields : List (String × Document)) (h : fieldsOrdered fields) :
    keysAscend (sortFields fields) ∧ fieldsOrdered (sortFields fields) := by
  suffices ∀ sorted, keysAscend sorted → fieldsOrdered sorted →
      keysAscend (fields.foldl (fun sorted field => putField field.1 field.2 sorted) sorted) ∧
      fieldsOrdered (fields.foldl (fun sorted field => putField field.1 field.2 sorted) sorted) from
    this [] rfl rfl
  induction fields with
  | nil => exact fun sorted h1 h2 => ⟨h1, h2⟩
  | cons f rest ih =>
    obtain ⟨k, v⟩ := f
    simp only [fieldsOrdered, Bool.and_eq_true] at h
    intro sorted h1 h2
    exact ih h.2 _ (keysAscend_putField k v sorted h1) (fieldsOrdered_putField k v sorted h.1 h2)

mutual

theorem isOrdered_normalize : ∀ d : Document, d.normalize.isOrdered
  | .array items => by simpa [normalize, isOrdered] using itemsOrdered_normalizeItems items
  | .object fields => by
    have h := sortFields_ordered _ (fieldsOrdered_normalizeFields fields)
    simp [normalize, isOrdered, h.1, h.2]
  | .null => rfl
  | .bool _ => rfl
  | .integer _ => rfl
  | .float _ => rfl
  | .string _ => rfl

theorem itemsOrdered_normalizeItems : ∀ items : List Document,
    itemsOrdered (normalizeItems items)
  | [] => rfl
  | x :: xs => by
    simp [normalizeItems, itemsOrdered, isOrdered_normalize x, itemsOrdered_normalizeItems xs]

theorem fieldsOrdered_normalizeFields : ∀ fields : List (String × Document),
    fieldsOrdered (normalizeFields fields)
  | [] => rfl
  | (_, x) :: xs => by
    simp [normalizeFields, fieldsOrdered, isOrdered_normalize x, fieldsOrdered_normalizeFields xs]

end

end Document

/-- A document whose objects all have ascending keys. -/
structure OrderedDocument where
  tree : Document
  ordered : tree.isOrdered

namespace OrderedDocument

def ofDocument (d : Document) : OrderedDocument :=
  ⟨d.normalize, d.isOrdered_normalize⟩

instance : Inhabited OrderedDocument := ⟨⟨.null, rfl⟩⟩

end OrderedDocument

end FluentSql
