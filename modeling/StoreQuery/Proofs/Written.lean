import StoreQuery.Entry
import StoreQuery.Proofs.Find.Document
import StoreQuery.Proofs.Json.Decoder
import StoreQuery.Proofs.Query.RoundTrip
import StoreQuery.Store.Settings

/-! # Written forms — records, values and settings are read back

    A record is written as an object that leaves out what is empty, and
    read through its fields, which fill a blank record.  Two things meet.
    What is left out stands in the blank record (`BringsUpdate`): a part of
    the written form either is a member whose field makes the update, or is
    nothing, and then the update changes nothing; so the parts fill the
    record one after the other (`FillsRecord.append`).  And the text of the
    form is decoded as the form itself (`Json.Decoder.Agrees`), because each
    of its members names a field.

    Values are written with a tag, and settings are checked behind the
    reading. -/

namespace StoreQuery

open Json (Decoder Mismatch)

/-! ## Parts of a record -/

namespace Json.Record

variable {ρ α : Type} {r : Record ρ} {x : ρ} {key : String} {update : ρ → ρ}
  {part members : List (String × Json)} {known : List String}

/-- A part of a written record brings an update to `x`: it is empty and the update changes
    nothing, or it is a member whose field makes the update. -/
inductive BringsUpdate (r : Record ρ) (x : ρ) (key : String) (update : ρ → ρ) :
    List (String × Json) → Prop where
  | absent : update x = x → BringsUpdate r x key update []
  | member {f : Field ρ} {value : Json} : r.field? key = some f → f.name = key →
      f.update.ofJson value = .ok update → BringsUpdate r x key update [(key, value)]

/-- The members turn the blank record into `x`, and have at most the known fields. -/
def FillsRecord (r : Record ρ) (known : List String) (members : List (String × Json)) (x : ρ) :
    Prop :=
  ∃ seen, members.foldlM r.takeMember r.start = .ok ⟨x, seen⟩ ∧ ∀ name ∈ seen, name ∈ known

theorem fillsRecord_nil (r : Record ρ) : r.FillsRecord [] [] r.blank :=
  ⟨[], rfl, List.forall_mem_nil _⟩

/-- A part behind other members makes its update, if its field is not among theirs. -/
theorem FillsRecord.append (h : r.FillsRecord known members x)
    (hpart : r.BringsUpdate x key update part) (hnew : key ∉ known) :
    r.FillsRecord (key :: known) (members ++ part) (update x) := by
  obtain ⟨seen, htake, hseen⟩ := h
  cases hpart with
  | absent hsame =>
    -- the known fields may grow without a member
    rw [hsame, List.append_nil]
    exact ⟨seen, htake, fun name h => List.mem_cons_of_mem key (hseen name h)⟩
  | @member f value hfield hname hupdate =>
    subst hname
    have hcontains : seen.contains f.name = false := by
      simpa using fun hmem => hnew (hseen f.name hmem)
    refine ⟨f.name :: seen, ?_, ?_⟩
    · have hlast : r.takeMember ⟨x, seen⟩ (f.name, value) = .ok ⟨update x, f.name :: seen⟩ :=
        takeMember_field hfield hcontains hupdate
      rw [List.foldlM_append]
      exact bind_eq_ok_iff.mpr ⟨_, htake, bind_eq_ok_iff.mpr ⟨_, hlast, rfl⟩⟩
    · rw [List.forall_mem_cons]
      exact ⟨List.mem_cons_self, fun name h => List.mem_cons_of_mem f.name (hseen name h)⟩

/-- Members that fill a record are decoded as it, where no field is required. -/
theorem FillsRecord.ofJson (h : r.FillsRecord known members x)
    (hfields : ∀ f ∈ r.fields, f.required = false) :
    r.decoder.ofJson (.obj members) = .ok x := by
  obtain ⟨seen, htake, -⟩ := h
  have hnone : r.fields.find? (fun f => f.required && !seen.contains f.name) = none := by
    rw [List.find?_eq_none]
    intro f hf
    simp [hfields f hf]
  refine bind_eq_ok_iff.mpr ⟨_, htake, ?_⟩
  rw [finish, hnone]

/-- A member brings the update that its field makes of what it decodes. -/
theorem bringsUpdate_member (r : Record ρ) (key : String) (set : α → ρ → ρ) {aliases : List String}
    {required : Bool} {d : Decoder α}
    (hfield : r.field? key = some ⟨key, aliases, required, d.map set⟩) {value : Json} {a : α}
    (ha : d.ofJson value = .ok a) : r.BringsUpdate x key (set a) [(key, value)] := by
  refine .member hfield rfl ?_
  rw [Decoder.map_ofJson, ha]
  rfl

/-- A text brings its own update, also when it is empty and left out. -/
theorem bringsUpdate_textMember (r : Record ρ) (key : String) (set : String → ρ → ρ)
    {aliases : List String} {required : Bool}
    (hfield : r.field? key = some ⟨key, aliases, required, Decoder.text.map set⟩)
    (hblank : set "" x = x) (s : String) : r.BringsUpdate x key (set s) (textMember key s) := by
  unfold textMember
  split
  · next h =>
    subst h
    exact .absent hblank
  · exact bringsUpdate_member r key set hfield rfl

/-- A field for texts agrees on the member of a text, if there is one. -/
theorem hasAgreeingField_textMember {name : String} {aliases : List String} {required : Bool}
    {set : String → ρ → ρ}
    (hfield : r.field? key = some ⟨name, aliases, required, Decoder.text.map set⟩) (s : String) :
    ∀ m ∈ textMember key s, r.HasAgreeingField m := by
  unfold textMember
  split
  · exact List.forall_mem_nil _
  · exact List.forall_mem_singleton.mpr (hasAgreeingField_scalar hfield rfl)

end Json.Record

open Json.Record (agrees_obj hasAgreeingField_scalar hasAgreeingField_textMember)

/-- A signed word is decoded from its integer. -/
theorem Json.Decoder.signed_ofInt64 (n : Int64) :
    signed.ofJson (.num (.int (.ofInt64 n))) = .ok n := by
  have hlt : (Integer.ofInt64 n).val < 2 ^ 63 := n.toInt_lt
  have hval : Int64.ofInt (Integer.ofInt64 n).val = n := Int64.ofInt_toInt n
  simp only [signed, scalar, Found.ofJson]
  rw [if_pos hlt, hval]

/-- An unsigned word is decoded from its integer. -/
theorem Json.Decoder.unsigned_ofUInt64 (n : UInt64) :
    unsigned.ofJson (.num (.int (.ofUInt64 n))) = .ok n := by
  have hge : 0 ≤ (Integer.ofUInt64 n).val := Int.natCast_nonneg n.toNat
  have hval : UInt64.ofNat (Integer.ofUInt64 n).val.toNat = n := UInt64.ofNat_toNat
  simp only [unsigned, scalar, Found.ofJson]
  rw [if_pos hge, hval]

/-! ## Persons and entries -/

/-- A person is decoded from its JSON form, whatever is left out there. -/
theorem Person.ofJson_toJson (p : Person) : decoder.ofJson p.toJson = .ok p := by
  obtain ⟨name, org, code⟩ := p
  have hname : record.BringsUpdate {} "name" (fun p => { p with name }) (textMember "name" name) :=
    record.bringsUpdate_textMember "name" (fun name p => { p with name }) rfl rfl name
  have horg : record.BringsUpdate { name } "org" (fun p => { p with org }) (textMember "org" org) :=
    record.bringsUpdate_textMember "org" (fun org p => { p with org }) rfl rfl org
  have hcode : record.BringsUpdate { name, org } "code" (fun p => { p with code })
      (if code = 0 then [] else [("code", .num (.int (.ofInt64 code)))]) := by
    split
    · next h =>
      subst h
      exact .absent rfl
    · exact record.bringsUpdate_member "code" (fun code p => { p with code }) rfl
        (Decoder.signed_ofInt64 code)
  -- each part is stated for the record that the parts before it have filled
  have hfills := record.fillsRecord_nil.append hname (by decide) |>.append horg (by decide)
    |>.append hcode (by decide)
  exact hfills.ofJson (by decide)

/-- An entry is decoded from its JSON form, whatever is left out there. -/
theorem Entry.ofJson_toJson (e : Entry) : decoder.ofJson e.toJson = .ok e := by
  obtain ⟨person, city, state⟩ := e
  have hperson : record.BringsUpdate {} "person" (fun e => { e with person })
      [("person", person.toJson)] :=
    record.bringsUpdate_member "person" (fun person e => { e with person }) rfl person.ofJson_toJson
  have hcity : record.BringsUpdate { person } "city" (fun e => { e with city })
      (textMember "city" city) :=
    record.bringsUpdate_textMember "city" (fun city e => { e with city }) rfl rfl city
  have hstate : record.BringsUpdate { person, city } "state" (fun e => { e with state })
      (textMember "state" state) :=
    record.bringsUpdate_textMember "state" (fun state e => { e with state }) rfl rfl state
  have hfills := record.fillsRecord_nil.append hperson (by decide) |>.append hcity (by decide)
    |>.append hstate (by decide)
  exact hfills.ofJson (by decide)

/-- The text of a person's JSON form is decoded as the form. -/
theorem Person.agrees_toJson (p : Person) : decoder.Agrees p.toJson := by
  refine agrees_obj ?_
  rw [List.forall_mem_append, List.forall_mem_append]
  refine ⟨⟨?_, ?_⟩, ?_⟩
  · exact hasAgreeingField_textMember rfl _
  · exact hasAgreeingField_textMember rfl _
  · split
    · exact List.forall_mem_nil _
    · exact List.forall_mem_singleton.mpr (hasAgreeingField_scalar rfl rfl)

/-- The text of an entry's JSON form is decoded as the form. -/
theorem Entry.agrees_toJson (e : Entry) : decoder.Agrees e.toJson := by
  refine agrees_obj ?_
  rw [List.forall_mem_append, List.forall_mem_cons]
  refine ⟨⟨⟨_, rfl, e.person.agrees_toJson.map _⟩, ?_⟩, ?_⟩
  · exact hasAgreeingField_textMember rfl _
  · exact hasAgreeingField_textMember rfl _

/-! ## Sort keys and pages -/

/-- The text of a sort key's JSON form is decoded as the form. -/
theorem Sorting.agrees_toJson (s : Sorting) : decoder.Agrees s.toJson := by
  refine agrees_obj ?_
  rw [List.forall_mem_cons, List.forall_mem_singleton]
  exact ⟨hasAgreeingField_scalar rfl rfl, hasAgreeingField_scalar rfl rfl⟩

/-- The text of a page request's JSON form is decoded as the form. -/
theorem Pagination.agrees_toJson (p : Pagination) : decoder.Agrees p.toJson := by
  refine agrees_obj ?_
  rw [List.forall_mem_cons]
  refine ⟨hasAgreeingField_scalar rfl rfl, ?_⟩
  split
  · exact List.forall_mem_nil _
  · exact List.forall_mem_singleton.mpr (hasAgreeingField_scalar rfl rfl)

/-! ## Settings -/

namespace StoreKind

/-- The names of the kinds are in lower case already. -/
theorem toLower_name (kind : StoreKind) : Text.toLower kind.name = kind.name := by
  cases kind with
  | find => decide +kernel
  | sql => decide +kernel

/-- A kind is read back from its name. -/
theorem ofText_name (kind : StoreKind) : ofText kind.name = .ok kind := by
  unfold ofText
  rw [toLower_name]
  cases kind with
  | find => rfl
  | sql => rfl

theorem ofJson_name (kind : StoreKind) : decoder.ofJson (.str kind.name) = .ok kind := by
  simp only [decoder, Decoder.scalar, Json.Found.ofJson, ofText_name]

end StoreKind

namespace Settings

/-- Settings are decoded from their JSON form, with or without an alias. -/
theorem ofJson_toJson (s : Settings) : decoder.ofJson s.toJson = .ok s := by
  obtain ⟨kind, url, key, db, collection, qualifier⟩ := s
  have hupdate : (StoreKind.decoder.map fun kind (s : Settings) => { s with kind }).ofJson
      (.str kind.name) = .ok fun s => { s with kind } := by
    rw [Decoder.map_ofJson, StoreKind.ofJson_name]
    rfl
  have hfield : record.field? "type"
      = some ⟨"type", [], true, StoreKind.decoder.map fun kind s => { s with kind }⟩ := rfl
  have hkind : record.takeMember record.start ("type", .str kind.name)
      = .ok ⟨{ kind, collection := "" }, ["type"]⟩ :=
    Json.Record.takeMember_field hfield rfl hupdate
  cases qualifier with
  | none => exact bind_eq_ok_iff.mpr ⟨_, bind_eq_ok_iff.mpr ⟨_, hkind, rfl⟩, rfl⟩
  | some name => exact bind_eq_ok_iff.mpr ⟨_, bind_eq_ok_iff.mpr ⟨_, hkind, rfl⟩, rfl⟩

/-- The text of the JSON form of settings is decoded as the form. -/
theorem agrees_toJson (s : Settings) : decoder.Agrees s.toJson := by
  refine agrees_obj ?_
  rw [List.forall_mem_append, List.forall_mem_cons, List.forall_mem_cons, List.forall_mem_cons,
    List.forall_mem_cons, List.forall_mem_singleton]
  refine ⟨⟨hasAgreeingField_scalar rfl rfl, hasAgreeingField_scalar rfl rfl,
    hasAgreeingField_scalar rfl rfl, hasAgreeingField_scalar rfl rfl,
    hasAgreeingField_scalar rfl rfl⟩, ?_⟩
  cases s.qualifier with
  | none => exact List.forall_mem_nil _
  | some name => exact List.forall_mem_singleton.mpr (hasAgreeingField_scalar rfl rfl)

/-- Settings that are written are read back if they pass the check. -/
theorem parse_toJson (s : Settings) : parse s.toJson.compact = s.check := by
  rw [parse, s.agrees_toJson.parse_compact s.ofJson_toJson]

/-- The collection, and the alias if there is one, hold more than white space. -/
def NothingBlank (s : Settings) : Prop :=
  (∃ c ∈ s.collection.toList, ¬Text.isWhiteSpace c)
    ∧ ∀ name, s.qualifier = some name → ∃ c ∈ name.toList, ¬Text.isWhiteSpace c

theorem not_isBlank_iff {s : String} :
    ¬Text.isBlank s ↔ ∃ c ∈ s.toList, ¬Text.isWhiteSpace c := by
  simp [Text.isBlank]

/-- Settings in which nothing is blank pass the check. -/
theorem check_of_nothingBlank {s : Settings} (h : s.NothingBlank) : s.check = .ok s := by
  obtain ⟨hcollection, halias⟩ := h
  rw [check, if_neg (not_isBlank_iff.mpr hcollection)]
  cases hqualifier : s.qualifier with
  | none => rfl
  | some name => exact if_neg (not_isBlank_iff.mpr (halias name hqualifier))

/-- Settings with a blank collection or a blank alias are refused. -/
theorem check_of_blank {s : Settings} (h : ¬s.NothingBlank) :
    ∃ fault, s.check = .error (.settings fault) := by
  by_cases hcollection : Text.isBlank s.collection
  · exact ⟨.blankCollection, if_pos hcollection⟩
  · cases hqualifier : s.qualifier with
    | none =>
      refine absurd ⟨not_isBlank_iff.mp hcollection, fun name hname => ?_⟩ h
      rw [hqualifier] at hname
      cases hname
    | some name =>
      have hblank : Text.isBlank name := by
        by_contra hblank
        refine h ⟨not_isBlank_iff.mp hcollection, fun other hother => ?_⟩
        obtain rfl : name = other := Option.some.inj (hqualifier.symm.trans hother)
        exact not_isBlank_iff.mp hblank
      refine ⟨.blankAlias, ?_⟩
      rw [check, if_neg hcollection, hqualifier]
      exact if_pos hblank

end Settings

/-! ## Values -/

namespace Value

/-- A tag and a scalar that its content decodes are read as the value of that content. -/
theorem readTagged_content {α : Type} (tag : String) {accept : Json.Found → Except Mismatch α}
    {make : α → Value} {j : Json} {x : α}
    (htag : content? tag = some ((Decoder.scalar accept).map make)) (hj : j.depth = 0)
    (hx : (Decoder.scalar accept).ofJson j = .ok x) (rest : List Char) :
    readTagged ((Json.obj [(tag, j)]).chars ++ rest) = .ok (make x, rest) := by
  have htext : (Json.obj [(tag, j)]).chars ++ rest = '\x7b' :: '"' ::
      (tag.toList.flatMap Json.escapeChar ++ '"' :: ':' :: (j.chars ++ '\x7d' :: rest)) := by
    simp [Json.chars, Json.membersChars, Json.membersTail, Json.quotation]
  have hobject (cs : List Char) : readTagged ('\x7b' :: cs) = readTaggedObject cs := rfl
  have hquote (cs : List Char) : Json.readKey ('"' :: cs) = Json.readQuotation cs := rfl
  have hcolon (cs : List Char) : Json.readColon (':' :: cs) = .ok cs := rfl
  have hmade : ((Decoder.scalar accept).map make).ofJson j = .ok (make x) := by
    rw [Decoder.map_ofJson, hx]
    rfl
  have hcontent := (Decoder.agrees_scalar accept hj).map make _ hmade ('\x7d' :: rest)
    (Json.endsNumber_cons _ _ (by decide))
  rw [htext, hobject]
  simp only [readTaggedObject, hquote, Json.readQuotation_escaped, htag, hcolon, hcontent, bind,
    Except.bind]
  rfl

/-- The tagged form of a finite value is read back from its text. -/
theorem readTagged_toTagged {v : Value} (h : v.Finite) (rest : List Char) :
    readTagged (v.toTagged.chars ++ rest) = .ok (v, rest) := by
  cases v with
  | text s =>
    have hs : Decoder.text.ofJson (.str s) = .ok s := rfl
    exact readTagged_content "String" rfl rfl hs rest
  | int n => exact readTagged_content "Int" rfl rfl (Decoder.signed_ofInt64 n) rest
  | uint n => exact readTagged_content "Uint" rfl rfl (Decoder.unsigned_ofUInt64 n) rest
  | float d =>
    cases d with
    | finite d =>
      have hd : Decoder.double.ofJson (.num (.double d)) = .ok d := rfl
      exact readTagged_content "Float" rfl rfl hd rest
    | infinite _ => exact h.elim
    | nan => exact h.elim
  | bool b =>
    have hb : Decoder.boolean.ofJson (.bool b) = .ok b := rfl
    exact readTagged_content "Boolean" rfl rfl hb rest
  | null => rfl

/-- A finite value is read back from the text of its tagged form. -/
theorem parseTagged_toTagged {v : Value} (h : v.Finite) :
    parseTagged v.toTagged.compact = .ok v := by
  have hread := readTagged_toTagged h []
  rw [List.append_nil] at hread
  exact Json.readWhole_compact hread

end Value

/-! ## Every written form -/

/-- Persons, entries, sort keys, page requests and finite values are read back from their text,
    whatever is left out there.  Settings are read back if neither the collection nor an alias is
    blank, and refused as settings otherwise. -/
theorem written_forms_read_back :
    (∀ p : Person, Person.decoder.parse p.toJson.compact = .ok p)
    ∧ (∀ e : Entry, Entry.decoder.parse e.toJson.compact = .ok e)
    ∧ (∀ s : Sorting, Sorting.decoder.parse s.toJson.compact = .ok s)
    ∧ (∀ p : Pagination, Pagination.decoder.parse p.toJson.compact = .ok p)
    ∧ (∀ v : Value, v.Finite → Value.parseTagged v.toTagged.compact = .ok v)
    ∧ ∀ s : Settings,
        (s.NothingBlank → Settings.parse s.toJson.compact = .ok s)
        ∧ (¬s.NothingBlank →
            ∃ fault, Settings.parse s.toJson.compact = .error (.settings fault)) := by
  refine ⟨fun p => p.agrees_toJson.parse_compact p.ofJson_toJson,
    fun e => e.agrees_toJson.parse_compact e.ofJson_toJson,
    fun s => s.agrees_toJson.parse_compact s.ofJson_toJson,
    fun p => p.agrees_toJson.parse_compact p.ofJson_toJson,
    fun v => Value.parseTagged_toTagged, fun s => ?_⟩
  rw [Settings.parse_toJson]
  exact ⟨Settings.check_of_nothingBlank, Settings.check_of_blank⟩

/-- Negative zero keeps its sign, a collection may start with a space, and an alias of one
    ideographic space is refused. -/
theorem written_forms_read_back_at_edges :
    Value.parseTagged (Value.float (.finite (.zero true))).toTagged.compact
      = .ok (.float (.finite (.zero true)))
    ∧ Settings.parse (Settings.toJson { kind := .sql, collection := " c" }).compact
      = .ok { kind := .sql, collection := " c" }
    ∧ ∃ fault, Settings.parse
        (Settings.toJson { kind := .sql, collection := "c", qualifier := some "\u3000" }).compact
      = .error (.settings fault) := by
  obtain ⟨-, -, -, -, hvalue, hsettings⟩ := written_forms_read_back
  refine ⟨hvalue _ trivial, (hsettings _).1 ?_, (hsettings _).2 ?_⟩
  · exact ⟨⟨'c', by decide, by decide⟩, fun _ h => by cases h⟩
  · rintro ⟨-, halias⟩
    obtain ⟨c, hc, hspace⟩ := halias "\u3000" rfl
    obtain rfl : c = '\u3000' := by simpa using hc
    exact hspace rfl

end StoreQuery
