import IncludeTree.Proofs.Directive.Fields
import IncludeTree.Proofs.Json.Alike
import IncludeTree.Proofs.Lists.Forall2

/-!
# Reading encoded includes back

Every form of an include that is encoded in JSON is read back, whatever the order of the members of
its objects: a record is encoded field by field (`Rule.encode_eq`, `Directive.encode_eq`), and every
field is read as it is set. Hence two forms that are encoded alike are the same: no list of rules is
not an empty one, one path not a list of one path, and a bare string not a record. What a decoder
makes of a value may be written in more ways than one, as a rule with a single path is; encoding it
again picks one of them (`Json.Faithful`).
-/

namespace IncludeTree

open Json

/-- Whether a decoder undoes an encoder. -/
structure Json.Faithful {α : Type} (encode : α → Json) (decode : Json → Except DecodeError α) :
    Prop where
  /-- What is encoded is read back, in whatever order the members come. -/
  readsBack : ∀ a v, (encode a).Alike v → decode v = .ok a
  /-- Different things are encoded differently. -/
  injective : ∀ a b, (encode a).Alike (encode b) → a = b
  /-- Decoding and encoding again changes nothing that is decoded, and nothing when done twice. -/
  normalizes : ∀ v w, (decode v).map encode = .ok w →
    decode w = decode v ∧ (decode w).map encode = .ok w

theorem Json.ReadsBack.faithful {α : Type} {encode : α → Json}
    {decode : Json → Except DecodeError α} (h : ReadsBack encode decode) :
    Faithful encode decode where
  readsBack := h
  injective a b halike := by
    have hb := h b (encode b) (Alike.refl _)
    exact Except.ok.inj ((h a (encode b) halike).symm.trans hb)
  normalizes v w hw := by
    cases hv : decode v with
    | error e =>
      rw [hv] at hw
      cases hw
    | ok a =>
      rw [hv] at hw
      obtain rfl : encode a = w := Except.ok.inj hw
      have ha := h a (encode a) (Alike.refl _)
      exact ⟨ha, by rw [ha]; rfl⟩

/-! ## Rules -/

theorem When.readsBack : ReadsBack When.encode When.decode := by
  intro w v h
  rw [str_alike.mp h]
  exact When.decode_encode w

theorem Rule.decodePaths_of_alike {paths : List String} {v : Json}
    (h : (Json.arr (paths.map .str)).Alike v) : decodePaths v = .ok paths := by
  have hlist := readsBack_str.list paths v h
  obtain ⟨items, rfl, -⟩ := exists_of_arr_alike h
  simp only [decodePaths, hlist]

/-- The value of a field in JSON. -/
def Rule.Field.value : Field → Json
  | condition text => .str text
  | paths texts => .arr (texts.map .str)
  | when verdict => verdict.encode

theorem Rule.encode_eq (r : Rule) :
    r.encode = .obj (r.fields.map fun f => (f.key, f.value)) := by
  obtain ⟨_ | condition, _ | ⟨path, paths⟩, _ | verdict⟩ := r <;> rfl

/-- Every field of a rule is read as it is set. -/
theorem Rule.setField_of_alike (r : Rule) (f : Field) (v : Json) (h : f.value.Alike v) :
    r.setField f.key v = .ok (r.put f) := by
  cases f with
  | condition text =>
    have htext := toOptional_of_alike readsBack_str rfl h
    simp [setField, Field.key, htext, put, Except.map]
  | paths paths =>
    have hpaths := decodePaths_of_alike h
    simp [setField, Field.key, hpaths, put, Except.map]
  | when verdict =>
    have hwhen := toOptional_of_alike When.readsBack rfl h
    simp [setField, Field.key, hwhen, put, Except.map]

theorem Rule.readsBack : ReadsBack Rule.encode Rule.decode := by
  intro r v h
  rw [encode_eq] at h
  obtain ⟨fs, hperm, hread⟩ := exists_toRecord_of_alike setField_of_alike h
  rw [decode, hread, foldl_put_of_perm hperm]

/-! ## Directives -/

theorem Files.readsBack : ReadsBack Files.encode Files.decode := by
  intro files v h
  cases files with
  | one path =>
    rw [str_alike.mp h]
    rfl
  | many paths =>
    have hlist := readsBack_str.list paths v h
    obtain ⟨items, rfl, -⟩ := exists_of_arr_alike h
    simp only [decode, hlist]

theorem Files.isNull_encode (files : Files) : files.encode.isNull = false := by
  cases files <;> rfl

/-- The value of a field in JSON. -/
def Directive.Field.value : Field → Json
  | localPath text | remote text | template text | project text | artifact text | job text
  | ref text => .str text
  | file files => files.encode
  | rules rs => .arr (rs.map Rule.encode)

theorem Directive.encode_eq (d : Directive) :
    d.encode = .obj (d.fields.map fun f => (f.key, f.value)) := by
  simp only [encode, members, fields, optionalMember_eq_map, List.map_append, List.map_map]
  rfl

/-- Every field of a directive is read as it is set. -/
theorem Directive.setField_of_alike (d : Directive) (f : Field) (v : Json) (h : f.value.Alike v) :
    d.setField f.key v = .ok (d.put f) := by
  cases f with
  | file files =>
    have hfiles := toOptional_of_alike Files.readsBack files.isNull_encode h
    simp [setField, Field.key, hfiles, put, Except.map]
  | rules rules =>
    have hrules := toOptional_of_alike Rule.readsBack.list rfl h
    simp [setField, Field.key, hrules, put, Except.map]
  | _ =>
    have htext := toOptional_of_alike readsBack_str rfl h
    simp [setField, Field.key, htext, put, Except.map]

theorem Directive.readsBack : ReadsBack Directive.encode Directive.decode := by
  intro d v h
  rw [encode_eq] at h
  obtain ⟨fs, hperm, hread⟩ := exists_toRecord_of_alike setField_of_alike h
  rw [decode, hread, foldl_put_of_perm hperm]

/-! ## Includes and documents -/

namespace Include

theorem readsBack : ReadsBack Include.encode Include.decode := by
  intro i v h
  cases i with
  | path text =>
    rw [str_alike.mp h]
    rfl
  | directive d =>
    have hdecode := Directive.readsBack d v h
    cases h with
    | obj => simp only [decode, hdecode]

theorem isNull_encode (i : Include) : i.encode.isNull = false := by
  cases i <;> rfl

/-- The JSON form of a pipeline document that has nothing but includes. -/
def encodeDocument (items : List Json) : Json := .obj [("include", .arr items)]

/-- Whether the items of a document write includes: those that are not `null` encode them, one by
one. -/
def WrittenInJson (includes : List Include) (items : List Json) : Prop :=
  List.Forall₂ (fun i v => i.encode.Alike v) includes (items.filter (!·.isNull))

theorem writtenInJson_of_forall₂ {includes : List Include} {items : List Json}
    (h : List.Forall₂ (fun i v => i.encode.Alike v) includes items) :
    WrittenInJson includes items := by
  have hfilter : items.filter (!·.isNull) = items :=
    filter_eq_self_of_forall₂ (fun i v hv => by rw [hv.isNull_eq, isNull_encode]; rfl) h
  rwa [WrittenInJson, hfilter]

theorem listOfDocument_of_writtenInJson {includes : List Include} {items : List Json}
    (h : WrittenInJson includes items) : listOfDocument (encodeDocument items) = .ok includes :=
  toItems_eq_ok (h.imp fun i v => readsBack i v)

theorem readsBack_document :
    ReadsBack (fun includes => encodeDocument (includes.map Include.encode)) listOfDocument := by
  intro includes document h
  obtain ⟨v, rfl, hv⟩ := exists_of_obj_singleton_alike h
  obtain ⟨items, rfl, hitems⟩ := exists_of_arr_alike hv
  rw [List.forall₂_map_left_iff] at hitems
  exact listOfDocument_of_writtenInJson (writtenInJson_of_forall₂ hitems)

/-- **Decoding undoes encoding** for every part of an include, and for documents of includes: what
is encoded is read back, different things are encoded differently, and to encode what has been
decoded is to bring it into a normal form. -/
theorem decoding_undoes_encoding :
    Faithful Rule.encode Rule.decode ∧ Faithful Files.encode Files.decode ∧
    Faithful Directive.encode Directive.decode ∧ Faithful Include.encode Include.decode ∧
    Faithful (fun includes => encodeDocument (includes.map Include.encode)) listOfDocument :=
  ⟨Rule.readsBack.faithful, Files.readsBack.faithful, Directive.readsBack.faithful,
    readsBack.faithful, readsBack_document.faithful⟩

/-- A single path is as good as a list of one for a rule, but not for the choice of files, and rules
may be absent without being empty. -/
example :
    (Rule.decode (.obj [("exists", .str "a")])).toOption =
        (Rule.decode (.obj [("exists", .arr [.str "a"])])).toOption ∧
      (Files.decode (.str "a")).toOption ≠ (Files.decode (.arr [.str "a"])).toOption ∧
      (Directive.decode (.obj [("rules", .arr [])])).toOption ≠
        (Directive.decode (.obj [])).toOption := by
  decide +kernel

end Include

end IncludeTree
