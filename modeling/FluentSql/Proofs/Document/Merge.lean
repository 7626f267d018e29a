import FluentSql.Proofs.Document.Fields

/-!
# Documents laid over documents

What a path of keys leads to in a merged document: the value of the overlay where one of the two
documents has no object, and the value of the base behind a key that the overlay lacks. This
determines the merged document. It follows that an overlay changes nothing when it is merged once
more.
-/

namespace FluentSql

namespace Document

variable {base overlay d value : Document} {key : String} {path : List String}

/-- The document at the end of a path of keys. -/
def follow? : List String → Document → Option Document
  | [], d => some d
  | key :: path, d => (d.at? key).bind (follow? path)

/-- The document is the overlay laid over the base, said for every path of keys. -/
structure LaidOver (base overlay d : Document) : Prop where
  /-- The overlay's value, where it is no object or the base has no object there. -/
  replaced : ∀ path value, overlay.follow? path = some value →
    (∀ fields, value ≠ .object fields) ∨ (∀ fields, base.follow? path ≠ some (.object fields)) →
    d.follow? path = some value
  /-- Where both have an object, an object with the keys of both. -/
  joined : ∀ path fields others, base.follow? path = some (.object fields) →
    overlay.follow? path = some (.object others) →
    ∃ all, d.follow? path = some (.object all) ∧
      ∀ key, key ∈ all.map (·.1) ↔ key ∈ fields.map (·.1) ∨ key ∈ others.map (·.1)
  /-- Behind a key that the overlay lacks there, what the base has. -/
  kept : ∀ path fields others key, base.follow? path = some (.object fields) →
    overlay.follow? path = some (.object others) → key ∉ others.map (·.1) →
    ∀ rest, d.follow? (path ++ key :: rest) = base.follow? (path ++ key :: rest)

/-! ## Paths -/

theorem follow?_append (path rest : List String) (d : Document) :
    d.follow? (path ++ rest) = (d.follow? path).bind (follow? rest) := by
  induction path generalizing d with
  | nil => rfl
  | cons key path ih =>
    rw [List.cons_append, follow?, follow?, Option.bind_assoc]
    exact congrArg _ (funext ih)

theorem follow?_of_at? (h : d.at? key = some value) (path : List String) :
    d.follow? (key :: path) = value.follow? path := by
  rw [follow?, h, Option.bind_some]

theorem exists_fields (h : d.at? key = some value) :
    ∃ fields, d = .object fields ∧ field? key fields = some value := by
  cases d with
  | object fields => exact ⟨fields, rfl, h⟩
  | _ => cases h

theorem mem_keys_iff {fields : List (String × Document)} :
    key ∈ fields.map (·.1) ↔ ∃ value, field? key fields = some value := by
  rw [← Option.isSome_iff_exists, Option.isSome_iff_ne_none, ne_eq, field?_eq_none_iff,
    List.mem_map]
  simp

theorem field?_eq_none_of_notMem {fields : List (String × Document)}
    (h : key ∉ fields.map (·.1)) : field? key fields = none := by
  rw [mem_keys_iff, ← Option.isSome_iff_exists] at h
  exact Option.not_isSome_iff_eq_none.mp h

/-! ## Order -/

theorem fieldsOrdered_iff {fields : List (String × Document)} :
    fieldsOrdered fields = true ↔ ∀ f ∈ fields, f.2.isOrdered = true := by
  induction fields with
  | nil => simp [fieldsOrdered]
  | cons f rest ih => rw [fieldsOrdered, Bool.and_eq_true, ih, List.forall_mem_cons]

theorem ascend_of_isOrdered {fields : List (String × Document)}
    (h : (object fields).isOrdered = true) : keysAscend fields = true := by
  rw [isOrdered, Bool.and_eq_true] at h
  exact h.1

theorem nodup_of_isOrdered {fields : List (String × Document)}
    (h : (object fields).isOrdered = true) : (fields.map (·.1)).Nodup :=
  nodup_of_keysAscend (ascend_of_isOrdered h)

theorem isOrdered_of_at? (hd : d.isOrdered = true) (h : d.at? key = some value) :
    value.isOrdered = true := by
  obtain ⟨fields, rfl, hfield⟩ := exists_fields h
  rw [isOrdered, Bool.and_eq_true] at hd
  exact fieldsOrdered_iff.mp hd.2 _ (mem_of_field? hfield)

theorem merge_eq_overlay
    (h : (∀ others, overlay ≠ .object others) ∨ ∀ fields, base ≠ .object fields) :
    base.merge overlay = overlay := by
  cases overlay with
  | object others =>
    cases base with
    | object fields => exact absurd rfl (h.elim (· others) fun hbase => absurd rfl (hbase fields))
    | _ => rfl
  | _ => rfl

mutual

theorem isOrdered_merge : ∀ overlay base : Document, base.isOrdered = true →
    overlay.isOrdered = true → (base.merge overlay).isOrdered = true
  | .object others, .object fields, hbase, hoverlay => by
    rw [isOrdered, Bool.and_eq_true] at hbase hoverlay
    rw [merge, isOrdered, keysAscend_mergeFields hbase.1,
      fieldsOrdered_mergeFields others fields hbase.2 hoverlay.2]
    rfl
  | .object _, .null, _, h => h
  | .object _, .bool _, _, h => h
  | .object _, .integer _, _, h => h
  | .object _, .float _, _, h => h
  | .object _, .string _, _, h => h
  | .object _, .array _, _, h => h
  | .null, _, _, _ => rfl
  | .bool _, _, _, _ => rfl
  | .integer _, _, _, _ => rfl
  | .float _, _, _, _ => rfl
  | .string _, _, _, _ => rfl
  | .array _, _, _, h => h

theorem fieldsOrdered_mergeFields : ∀ others fields : List (String × Document),
    fieldsOrdered fields = true → fieldsOrdered others = true →
    fieldsOrdered (mergeFields fields others) = true
  | [], _, h, _ => h
  | (key, value) :: rest, fields, hfields, hothers => by
    rw [fieldsOrdered, Bool.and_eq_true] at hothers
    rw [mergeFields]
    refine fieldsOrdered_mergeFields rest _ (fieldsOrdered_putField _ _ _ ?_ hfields) hothers.2
    cases hold : field? key fields with
    | none => exact hothers.1
    | some old =>
      exact isOrdered_merge value old (fieldsOrdered_iff.mp hfields _ (mem_of_field? hold))
        hothers.1

end

/-! ## Paths in a merged document -/

/-- A key of the overlay leads to its value, merged into that of the base where there is one. -/
theorem at?_merge (hoverlay : overlay.isOrdered = true) (h : overlay.at? key = some value) :
    (base.merge overlay).at? key = some ((base.at? key).elim value fun old => old.merge value) := by
  obtain ⟨others, rfl, hfield⟩ := exists_fields h
  cases base with
  | object fields =>
    rw [merge, at?, field?_mergeFields (nodup_of_isOrdered hoverlay), hfield]
    rfl
  | _ => exact h

/-- A path of the overlay leads to its value, merged into that of the base where there is one. -/
theorem follow?_merge (hbase : base.isOrdered = true) (hoverlay : overlay.isOrdered = true)
    (h : overlay.follow? path = some value) :
    (base.merge overlay).follow? path =
      some ((base.follow? path).elim value fun old => old.merge value) := by
  induction path generalizing base overlay with
  | nil =>
    obtain rfl := Option.some.inj h
    rfl
  | cons key path ih =>
    obtain ⟨new, hnew, hvalue⟩ := Option.bind_eq_some_iff.mp h
    rw [follow?, at?_merge hoverlay hnew, follow?, Option.bind_some]
    cases hold : base.at? key with
    | none => exact hvalue
    | some old => exact ih (isOrdered_of_at? hbase hold) (isOrdered_of_at? hoverlay hnew) hvalue

/-- Where both documents have an object, the merged one has their merged fields. -/
theorem follow?_mergeFields (hbase : base.isOrdered = true) (hoverlay : overlay.isOrdered = true)
    {fields others : List (String × Document)} (hfields : base.follow? path = some (.object fields))
    (hothers : overlay.follow? path = some (.object others)) :
    (base.merge overlay).follow? path = some (.object (mergeFields fields others)) := by
  rw [follow?_merge hbase hoverlay hothers, hfields, Option.elim_some, merge]

theorem isOrdered_of_follow? (hd : d.isOrdered = true) (h : d.follow? path = some value) :
    value.isOrdered = true := by
  induction path generalizing d with
  | nil => exact Option.some.inj h ▸ hd
  | cons key path ih =>
    obtain ⟨next, hnext, hvalue⟩ := Option.bind_eq_some_iff.mp h
    exact ih (isOrdered_of_at? hd hnext) hvalue

theorem laidOver_merge (hbase : base.isOrdered = true) (hoverlay : overlay.isOrdered = true) :
    LaidOver base overlay (base.merge overlay) where
  replaced path value hvalue hclash := by
    rw [follow?_merge hbase hoverlay hvalue]
    cases hold : base.follow? path with
    | none => rfl
    | some old =>
      refine congrArg some (merge_eq_overlay (hclash.imp_right fun hbase fields hfields => ?_))
      exact hbase fields (hfields ▸ hold)
  joined path fields others hfields hothers := by
    refine ⟨_, follow?_mergeFields hbase hoverlay hfields hothers, fun key => ?_⟩
    have hnodup := nodup_of_isOrdered (isOrdered_of_follow? hoverlay hothers)
    rw [mem_keys_iff, mem_keys_iff, mem_keys_iff, field?_mergeFields hnodup]
    cases field? key others <;> simp
  kept path fields others key hfields hothers hkey rest := by
    have hnodup := nodup_of_isOrdered (isOrdered_of_follow? hoverlay hothers)
    have hlacks := field?_eq_none_of_notMem hkey
    have hat : (object (mergeFields fields others)).at? key = (object fields).at? key := by
      rw [at?, at?, field?_mergeFields hnodup, hlacks]
    rw [follow?_append, follow?_append, follow?_mergeFields hbase hoverlay hfields hothers, hfields,
      Option.bind_some, Option.bind_some, follow?, follow?, hat]

/-! ## The merged document is determined -/

/-- Behind a key of both documents the rest of the overlay is laid over the rest of the base. -/
theorem LaidOver.behind {old new next : Document} (h : LaidOver base overlay d)
    (hbase : base.at? key = some old) (hoverlay : overlay.at? key = some new)
    (hd : d.at? key = some next) : LaidOver old new next where
  replaced path value hvalue hclash := by
    rw [← follow?_of_at? hoverlay] at hvalue
    rw [← follow?_of_at? hbase] at hclash
    rw [← follow?_of_at? hd]
    exact h.replaced _ _ hvalue hclash
  joined path fields others hfields hothers := by
    rw [← follow?_of_at? hbase] at hfields
    rw [← follow?_of_at? hoverlay] at hothers
    rw [← follow?_of_at? hd]
    exact h.joined _ _ _ hfields hothers
  kept path fields others key hfields hothers hkey rest := by
    rw [← follow?_of_at? hbase] at hfields ⊢
    rw [← follow?_of_at? hoverlay] at hothers
    rw [← follow?_of_at? hd]
    exact h.kept _ _ _ _ hfields hothers hkey rest

section Fields

variable {fields others all : List (String × Document)}

theorem LaidOver.field?_of_lacks (h : LaidOver (.object fields) (.object others) (.object all))
    (hkey : field? key others = none) : field? key all = field? key fields := by
  have hlacks : key ∉ others.map (·.1) := by
    rw [mem_keys_iff, hkey]
    simp
  have hkept := h.kept [] _ _ _ rfl rfl hlacks []
  simpa [follow?, at?] using hkept

theorem LaidOver.field?_of_new (h : LaidOver (.object fields) (.object others) (.object all))
    {new : Document} (hnew : field? key others = some new) (hkey : field? key fields = none) :
    field? key all = some new := by
  have hreplaced := h.replaced [key] new
  simp only [follow?, at?, hnew, hkey] at hreplaced
  simpa using hreplaced

theorem LaidOver.exists_field (h : LaidOver (.object fields) (.object others) (.object all))
    {new : Document} (hnew : field? key others = some new) :
    ∃ next, field? key all = some next := by
  obtain ⟨_, hall, hkeys⟩ := h.joined [] _ _ rfl rfl
  obtain rfl := Document.object.inj (Option.some.inj hall)
  exact mem_keys_iff.mp ((hkeys key).mpr (.inr (mem_keys_iff.mpr ⟨new, hnew⟩)))

theorem sizeOf_lt_of_field? {value : Document} (h : field? key fields = some value) :
    sizeOf value < sizeOf (object fields) := by
  have hmem := List.sizeOf_lt_of_mem (mem_of_field? h)
  simp only [Prod.mk.sizeOf_spec, object.sizeOf_spec] at hmem ⊢
  omega

end Fields

/-- Nothing but the merged document is the overlay laid over the base. -/
theorem LaidOver.eq_merge (h : LaidOver base overlay d) (hbase : base.isOrdered = true)
    (hoverlay : overlay.isOrdered = true) (hd : d.isOrdered = true) : d = base.merge overlay := by
  -- Only where both have an object does the question come back, for the smaller overlay there.
  induction hn : sizeOf overlay using Nat.strongRecOn generalizing base overlay d with
  | ind n ih =>
    by_cases hclash : (∀ others, overlay ≠ .object others) ∨ ∀ fields, base ≠ .object fields
    · have hwhole : d.follow? [] = some overlay := h.replaced [] _ rfl
        (hclash.imp_right fun hbase fields hfields => hbase fields (Option.some.inj hfields))
      rw [merge_eq_overlay hclash]
      exact Option.some.inj hwhole
    simp only [not_or, not_forall, ne_eq, not_not] at hclash
    obtain ⟨⟨others, rfl⟩, fields, rfl⟩ := hclash
    obtain ⟨all, hall, -⟩ := h.joined [] _ _ rfl rfl
    obtain rfl : d = .object all := Option.some.inj hall
    have hmerged := isOrdered_merge _ _ hbase hoverlay
    rw [merge] at hmerged ⊢
    congr 1
    refine eq_of_field? (ascend_of_isOrdered hd) (ascend_of_isOrdered hmerged) fun key => ?_
    rw [field?_mergeFields (nodup_of_isOrdered hoverlay)]
    cases hnew : field? key others with
    | none => exact h.field?_of_lacks hnew
    | some new =>
      cases hold : field? key fields with
      | none => exact h.field?_of_new hnew hold
      | some old =>
        obtain ⟨next, hnext⟩ := h.exists_field hnew
        have hmerge : next = old.merge new :=
          ih _ (hn ▸ sizeOf_lt_of_field? hnew) (h.behind hold hnew hnext)
            (isOrdered_of_at? hbase hold) (isOrdered_of_at? hoverlay hnew)
            (isOrdered_of_at? hd hnext) rfl
        rw [hnext, hmerge]
        rfl

/-- A document that an overlay was laid over stays as it is under the same overlay. -/
theorem LaidOver.again (h : LaidOver base overlay d) : LaidOver d overlay d where
  replaced path value hvalue hclash := by
    by_cases hobject : ∃ others, value = .object others
    · obtain ⟨others, rfl⟩ := hobject
      refine h.replaced _ _ hvalue (.inr fun fields hfields => ?_)
      obtain ⟨all, hall, -⟩ := h.joined _ _ _ hfields hvalue
      rcases hclash with hscalar | hd
      · exact hscalar others rfl
      · exact hd all hall
    · exact h.replaced _ _ hvalue (.inl fun others hvalue => hobject ⟨others, hvalue⟩)
  joined path fields others hfields hothers := by
    refine ⟨fields, hfields, fun key => (or_iff_left_of_imp fun hkey => ?_).symm⟩
    by_cases hbase : ∃ old, base.follow? path = some (.object old)
    · obtain ⟨old, hold⟩ := hbase
      obtain ⟨all, hall, hkeys⟩ := h.joined _ _ _ hold hothers
      obtain rfl : fields = all := by rw [hfields] at hall; simpa using hall
      exact (hkeys key).mpr (.inr hkey)
    · have hnew := h.replaced _ _ hothers (.inr fun old hold => hbase ⟨old, hold⟩)
      obtain rfl : fields = others := by rw [hfields] at hnew; simpa using hnew
      exact hkey
  kept _ _ _ _ _ _ _ _ := rfl

/-- An object is laid over the object without fields. -/
theorem laidOver_empty (others : List (String × Document)) :
    LaidOver (.object []) (.object others) (.object others) where
  replaced _ _ hvalue _ := hvalue
  joined path fields others hfields hothers := by
    cases path with
    | nil =>
      obtain rfl : [] = fields := Document.object.inj (Option.some.inj hfields)
      exact ⟨others, hothers, fun key => by simp⟩
    | cons => cases hfields
  kept path fields others key hfields hothers hkey rest := by
    cases path with
    | nil =>
      obtain rfl := Document.object.inj (Option.some.inj hothers)
      rw [List.nil_append, follow?, follow?, at?, field?_eq_none_of_notMem hkey]
      rfl
    | cons => cases hfields

end Document

namespace OrderedDocument

open Document (LaidOver)

variable {base overlay : OrderedDocument}

/-- The document without a field. -/
def empty : OrderedDocument :=
  ⟨.object [], rfl⟩

/-- An overlay merged into a base. -/
def merge (base overlay : OrderedDocument) : OrderedDocument :=
  ⟨base.tree.merge overlay.tree, Document.isOrdered_merge _ _ base.ordered overlay.ordered⟩

theorem laidOver_iff (base overlay d : OrderedDocument) :
    LaidOver base.tree overlay.tree d.tree ↔ d = base.merge overlay := by
  constructor
  · intro h
    exact eq_of_tree (h.eq_merge base.ordered overlay.ordered d.ordered)
  · rintro rfl
    exact Document.laidOver_merge base.ordered overlay.ordered

/-- How overlays are merged into bases. -/
structure MergesDeeply (base overlay : OrderedDocument) : Prop where
  /-- The merged document is the overlay laid over the base, and no other document is. -/
  laidOver_iff : ∀ d : OrderedDocument,
    LaidOver base.tree overlay.tree d.tree ↔ d = base.merge overlay
  again : (base.merge overlay).merge overlay = base.merge overlay
  empty_over : ∀ fields, base.tree = .object fields → base.merge empty = base
  over_empty : ∀ fields, overlay.tree = .object fields → empty.merge overlay = overlay

theorem mergesDeeply (base overlay : OrderedDocument) : MergesDeeply base overlay where
  laidOver_iff := laidOver_iff base overlay
  again := by
    have h := (laidOver_iff base overlay _).mpr rfl
    exact ((laidOver_iff _ overlay _).mp h.again).symm
  empty_over fields hfields := by
    apply eq_of_tree
    show base.tree.merge (.object []) = base.tree
    rw [hfields]
    rfl
  over_empty fields hfields := by
    have h : LaidOver empty.tree overlay.tree overlay.tree := by
      rw [hfields]
      exact Document.laidOver_empty fields
    exact ((laidOver_iff empty overlay overlay).mp h).symm

/-- An object meets a scalar in either document, an object and a missing key. -/
example : (Document.object [("a", .object [("b", .null), ("c", .bool true)]), ("d", .null),
      ("e", .object [("f", .null)])]).merge
    (.object [("a", .object [("b", .bool false)]), ("d", .object []), ("e", .null)]) =
    .object [("a", .object [("b", .bool false), ("c", .bool true)]), ("d", .object []),
      ("e", .null)] := by
  rfl

end OrderedDocument

end FluentSql
