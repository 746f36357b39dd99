import Redraw.Proofs.Json.Nesting
import Redraw.Wire.Variants

/-!
# Laws of decoding

One law for every way a decoder is put together. A record is read from the members of an object if
each of its fields is, whatever the order of the members and whatever else stands among them; and
what is read from a document is built from its parts.
-/

namespace Redraw

/-! ## Single values -/

namespace Decoder

/-- An integer within the bounds of its type is read as it is. -/
theorem integer_eq_ok {α : Type} {wanted : String} {narrow? : Int → Option α} {i : Int} {a : α}
    (narrow : narrow? i = some a) (fits : -0x8000000000000000 ≤ i ∧ i < 0x10000000000000000) :
    integer wanted narrow? (.num (.int i fits)) = .ok a := by
  unfold integer
  dsimp only
  rw [narrow]

theorem uint64_ofUInt64 (n : UInt64) : uint64 (Json.ofUInt64 n) = .ok n := by
  have small := n.toNat_lt
  refine integer_eq_ok ?_ _
  rw [if_pos (by omega), Int.toNat_natCast, UInt64.ofNat_toNat]

theorem uint32_ofUInt32 (n : UInt32) : uint32 (Json.ofUInt32 n) = .ok n := by
  have small := n.toNat_lt
  refine integer_eq_ok ?_ _
  rw [if_pos (by omega), Int.toNat_natCast, UInt32.ofNat_toNat]

theorem uint8_ofUInt8 (n : UInt8) : uint8 (Json.ofUInt8 n) = .ok n := by
  have small := n.toNat_lt
  refine integer_eq_ok ?_ _
  rw [if_pos (by omega), Int.toNat_natCast, UInt8.ofNat_toNat]

theorem int64_ofInt64 (n : Int64) : int64 (Json.ofInt64 n) = .ok n := by
  have low := n.le_toInt
  have high := n.toInt_lt
  refine integer_eq_ok ?_ _
  rw [if_pos (by omega), Int64.ofInt_toInt]

/-- A number that is finite is written as a number. The others are written as null and do not come back. -/
theorem float_ofFloat {x : Float} (finite : x.isFinite = true) : float (Json.ofFloat x) = .ok x := by
  rw [Json.ofFloat, dif_pos finite]
  rfl

/-- A value is read from its document as it is. -/
theorem value_json (v : Value) : value v.json = .ok v := by
  rw [value, v.ofJson?_json]

/-- A value is no deeper than the document it was read from. -/
theorem depth_of_value {j : Json} {v : Value} (found : value j = .ok v) : v.json.depth ≤ j.depth := by
  unfold value at found
  split at found
  · next same =>
    cases found
    exact Value.depth_of_ofJson? same
  · cases found

/-- A list is read back if each of its items is. -/
theorem list_map {α : Type} {item : Decoder α} {encode : α → Json} {as : List α}
    (each : ∀ a ∈ as, item (encode a) = .ok a) : list item (.arr (as.map encode)) = .ok as := by
  change items item (as.map encode) = .ok as
  induction as with
  | nil => rfl
  | cons a as ih =>
    have first := each a List.mem_cons_self
    have rest := ih fun b later => each b (List.mem_cons_of_mem a later)
    rw [List.map_cons, items, first]
    dsimp only
    rw [rest]

/-- What is read from an array is read from its items. -/
theorem mem_of_list {α : Type} {item : Decoder α} {j : Json} {as : List α}
    (found : list item j = .ok as) {a : α} (inside : a ∈ as) :
    ∃ part, item part = .ok a ∧ part.depth < j.depth := by
  cases j with
  | arr js =>
    suffices parts : ∃ part ∈ js, item part = .ok a by
      obtain ⟨part, among, same⟩ := parts
      exact ⟨part, same, Nat.lt_succ_of_le (Json.depth_le_depthItems among)⟩
    change items item js = .ok as at found
    induction js generalizing as with
    | nil =>
      cases found
      cases inside
    | cons j js ih =>
      unfold items at found
      split at found
      · cases found
      · next first head =>
        split at found
        · cases found
        · next rest tail =>
          cases found
          obtain rfl | later := List.mem_cons.1 inside
          · exact ⟨j, List.mem_cons_self, head⟩
          · obtain ⟨part, among, same⟩ := ih later tail
            exact ⟨part, List.mem_cons_of_mem j among, same⟩
  | null => cases found
  | bool b => cases found
  | num n => cases found
  | str s => cases found
  | obj members => cases found
  | unreadable => cases found

end Decoder

/-! ## Records -/

/-- The values of an object's members. -/
def Source.ofMembers (members : List (String × Json)) : Source where
  value? name := members.lookup name
  byPosition := false
  absent := .missingField

namespace Fields

variable {α β : Type} {f : Fields (α → β)} {x : Fields α} {members : List (String × Json)}

/-- Each field accepts its member, and the members make the record. -/
structure Reads (f : Fields α) (members : List (String × Json)) (a : α) : Prop where
  accepts : ∀ field ∈ f.known, ∀ j, members.lookup field.1 = some j → field.2 j = .ok ()
  builds : f.build (.ofMembers members) = .ok a

/-- The first fault among the fields is the one that is reported. -/
theorem build_seq (s : Source) :
    (f <*> x).build s =
      match f.build s with
      | .error e => Except.error e
      | .ok g => (x.build s).map g := rfl

/-- A field is read from its member, or from what stands for a missing one. -/
theorem build_field (name : String) (decode : Decoder α) (absent : Source → Except DecodeError α)
    (s : Source) :
    (field name decode absent).build s =
      match s.value? name with
      | some j => decode j
      | none => absent s := rfl

/-- A record reads where each of its fields reads its part. -/
theorem Reads.seq {g : α → β} {a : α} (first : f.Reads members g) (second : x.Reads members a) :
    (f <*> x).Reads members (g a) where
  accepts := by
    intro field known
    obtain earlier | later := List.mem_append.1 known
    · exact first.accepts field earlier
    · exact second.accepts field later
  builds := by
    rw [build_seq, first.builds]
    dsimp only
    rw [second.builds]
    rfl

theorem Reads.map {a : α} (reads : x.Reads members a) (g : α → β) :
    (g <$> x).Reads members (g a) := by
  have constant : (pure g : Fields (α → β)).Reads members g := by
    refine ⟨?_, rfl⟩
    intro field known
    cases known
  exact constant.seq reads

/-- A field reads what its member decodes to. -/
theorem reads_present {name : String} {decode : Decoder α} {j : Json} {a : α}
    {absent : Source → Except DecodeError α} (there : members.lookup name = some j)
    (decoded : decode j = .ok a) : (field name decode absent).Reads members a where
  accepts := by
    intro entry known k found
    obtain rfl := List.mem_singleton.1 known
    rw [there] at found
    cases found
    change (decode j).map _ = _
    rw [decoded]
    rfl
  builds := by
    have value : (Source.ofMembers members).value? name = some j := there
    rw [build_field, value]
    exact decoded

/-- A field without a member reads its default. -/
theorem reads_absent {name : String} {decode : Decoder α} {a : α}
    {absent : Source → Except DecodeError α} (missing : members.lookup name = none)
    (default : absent (.ofMembers members) = .ok a) : (field name decode absent).Reads members a where
  accepts := by
    intro entry known k found
    obtain rfl := List.mem_singleton.1 known
    rw [missing] at found
    cases found
  builds := by
    have value : (Source.ofMembers members).value? name = none := missing
    rw [build_field, value]
    exact default

/-- Among members with distinct names each is found by its name. -/
theorem lookup_of_mem {γ : Type} {entries : List (String × γ)} (distinct : (entries.map Prod.fst).Nodup)
    {name : String} {c : γ} (inside : (name, c) ∈ entries) : entries.lookup name = some c := by
  induction entries with
  | nil => cases inside
  | cons entry rest ih =>
    obtain ⟨other, kept⟩ := entry
    obtain ⟨new, distinct⟩ := List.nodup_cons.1 distinct
    obtain same | later := List.mem_cons.1 inside
    · cases same
      exact List.lookup_cons_self
    · have differ : name ≠ other := by
        rintro rfl
        exact new (List.mem_map.2 ⟨_, later, rfl⟩)
      rw [List.lookup_cons, beq_false_of_ne differ]
      exact ih distinct later

theorem mem_of_lookup {γ : Type} {entries : List (String × γ)} {name : String} {c : γ}
    (found : entries.lookup name = some c) : (name, c) ∈ entries := by
  obtain ⟨before, after, rfl, -⟩ := List.lookup_eq_some_iff.1 found
  exact List.mem_append_right before List.mem_cons_self

/-- Members with distinct names that are accepted one by one are accepted. -/
theorem check_eq_ok {known : List (String × (Json → Except DecodeError Unit))} {seen : List String}
    {members : List (String × Json)} (distinct : (members.map Prod.fst).Nodup)
    (new : ∀ member ∈ members, member.1 ∉ seen)
    (accepted : ∀ member ∈ members, ∀ accept, known.lookup member.1 = some accept →
      accept member.2 = .ok ()) : check known seen members = .ok () := by
  induction members generalizing seen with
  | nil => rfl
  | cons member rest ih =>
    obtain ⟨name, j⟩ := member
    obtain ⟨first, distinct⟩ := List.nodup_cons.1 distinct
    have acceptedRest := fun m later => accepted m (List.mem_cons_of_mem (name, j) later)
    unfold check
    split
    · exact ih distinct (fun m later => new m (List.mem_cons_of_mem (name, j) later)) acceptedRest
    · next accept found =>
      rw [if_neg (new (name, j) List.mem_cons_self),
        accepted (name, j) List.mem_cons_self accept found]
      refine ih distinct (fun m later => ?_) acceptedRest
      rintro (_ | ⟨_, again⟩)
      · exact first (List.mem_map.2 ⟨m, later, rfl⟩)
      · exact new m (List.mem_cons_of_mem (name, j) later) again

/-- A record is read from members with distinct names. -/
theorem ofMembers_of_reads {x : Fields α} {a : α} (distinct : (members.map Prod.fst).Nodup)
    (reads : x.Reads members a) : x.ofMembers members = .ok a := by
  have accepted : check x.known [] members = .ok () := by
    refine check_eq_ok distinct (fun _ _ again => by cases again) ?_
    intro member inside accept found
    exact reads.accepts (member.1, accept) (mem_of_lookup found) member.2
      (lookup_of_mem distinct inside)
  unfold ofMembers
  rw [accepted]
  exact reads.builds

theorem decode_of_reads {x : Fields α} {a : α} (distinct : (members.map Prod.fst).Nodup)
    (reads : x.Reads members a) (wanted : String) (held : Bool) :
    x.decode wanted held (.obj members) = .ok a :=
  ofMembers_of_reads distinct reads

/-- A document with distinct members is read as a record if its fields read their parts. -/
theorem record_of_reads {x : Fields α} {a : α} {name : String}
    (distinct : (members.map Prod.fst).Nodup) (reads : x.Reads members a) :
    x.record name (.obj members) = .ok a :=
  ofMembers_of_reads distinct reads

/-! ## What records are built from -/

/-- A record that was built has all its parts. -/
theorem of_build_seq {s : Source} {b : β} (built : (f <*> x).build s = .ok b) :
    ∃ g a, f.build s = .ok g ∧ x.build s = .ok a ∧ b = g a := by
  rw [build_seq] at built
  split at built
  · cases built
  · next g first =>
    cases second : x.build s with
    | error e =>
      rw [second] at built
      cases built
    | ok a =>
      rw [second] at built
      cases built
      exact ⟨g, a, first, rfl, rfl⟩

theorem of_build_map {g : α → β} {s : Source} {b : β} (built : (g <$> x).build s = .ok b) :
    ∃ a, x.build s = .ok a ∧ b = g a := by
  obtain ⟨h, a, same, second, rfl⟩ := of_build_seq (f := pure g) built
  cases same
  exact ⟨a, second, rfl⟩

/-- A field that was built has been read from its member, or its default stands for it. -/
theorem of_build_field {name : String} {decode : Decoder α} {absent : Source → Except DecodeError α}
    {s : Source} {a : α} (built : (field name decode absent).build s = .ok a) :
    (∃ j, s.value? name = some j ∧ decode j = .ok a) ∨ absent s = .ok a := by
  rw [build_field] at built
  split at built
  · next j there => exact .inl ⟨j, there, built⟩
  · exact .inr built

/-- What is read from members has been built from them. -/
theorem build_of_ofMembers {x : Fields α} {a : α} (found : x.ofMembers members = .ok a) :
    x.build (.ofMembers members) = .ok a := by
  unfold ofMembers at found
  split at found
  · cases found
  · exact found

theorem build_of_record {x : Fields α} {name : String} {a : α}
    (found : x.record name (.obj members) = .ok a) : x.build (.ofMembers members) = .ok a :=
  build_of_ofMembers found

/-- A record is built from parts of the document. -/
theorem build_of_decode {x : Fields α} {wanted : String} {held : Bool} {j : Json} {a : α}
    (decoded : x.decode wanted held j = .ok a) :
    ∃ s : Source, x.build s = .ok a ∧
      ∀ name part, s.value? name = some part → part.depth < j.depth := by
  cases j with
  | obj members =>
    exact ⟨_, build_of_ofMembers decoded, fun name part found =>
      Nat.lt_succ_of_le (Json.depth_le_depthMembers (mem_of_lookup found))⟩
  | arr items =>
    change x.ofItems wanted held items = _ at decoded
    unfold ofItems at decoded
    dsimp only at decoded
    split at decoded
    · cases decoded
    · next built =>
      split at decoded
      · cases decoded
        refine ⟨_, built, fun name part found => ?_⟩
        obtain ⟨k, -, there⟩ := Option.bind_eq_some_iff.1 found
        exact Nat.lt_succ_of_le (Json.depth_le_depthItems (List.mem_of_getElem? there))
      · split at decoded <;> cases decoded
  | null => cases decoded
  | bool b => cases decoded
  | num n => cases decoded
  | str s => cases decoded
  | unreadable => cases decoded

end Fields

/-! ## Alternatives -/

namespace Variant

variable {α : Type} {variants : List (Variant α)}

/-- A document with one member is decoded by the variant of that name. -/
theorem decode_content {name : String} {j : Json} {v : Variant α} {a : α}
    (known : find variants name = .ok v) (content : v.content j = .ok a) :
    decode variants (.obj [(name, j)]) = .ok a := by
  unfold decode
  dsimp only
  rw [known]
  dsimp only
  rw [content]
  rfl

theorem decode_single {β : Type} {name : String} {make : β → α} {content : Decoder β} {j : Json} {b : β}
    (known : find variants name = .ok (single name make content)) (decoded : content j = .ok b) :
    decode variants (.obj [(name, j)]) = .ok (make b) := by
  refine decode_content known ?_
  change (content j).map make = _
  rw [decoded]
  rfl

/-- A variant with fields is read from the members under its name. -/
theorem decode_record {name wanted : String} {fields : Fields α} {members : List (String × Json)}
    {a : α} (known : find variants name = .ok (record name wanted fields))
    (distinct : (members.map Prod.fst).Nodup) (reads : fields.Reads members a) :
    decode variants (.obj [(name, .obj members)]) = .ok a :=
  decode_content known (Fields.decode_of_reads distinct reads ("struct variant " ++ wanted) false)

end Variant

/-! ## Texts -/

namespace Wire

variable {α : Type} [Wire α]

theorem decode_of_read {text : String} {a : α} (found : read text = .ok a) :
    ∃ j, Json.read? text = some j ∧ decode j = .ok a := by
  unfold read at found
  split at found
  · next j spelled =>
    unfold ofJson at found
    split at found
    · next decoded =>
      cases found
      exact ⟨j, spelled, decoded⟩
    · cases found
  · cases found

/-- What cannot be decoded is not read. -/
theorem read_ne_ok {text : String} {j : Json} (spelled : Json.read? text = some j)
    (undecodable : ∀ a : α, decode j ≠ .ok a) (a : α) : read text ≠ .ok a := by
  intro found
  obtain ⟨k, same, decoded⟩ := decode_of_read found
  rw [spelled] at same
  cases same
  exact undecodable a decoded

/-- A text that spells a document is read as what the document decodes to. -/
theorem read_of_decode {text : String} {j : Json} {a : α} (spelled : Json.read? text = some j)
    (decoded : decode j = .ok a) : read text = .ok a := by
  unfold read
  rw [spelled]
  dsimp only
  unfold ofJson
  rw [decoded]

end Wire

end Redraw
