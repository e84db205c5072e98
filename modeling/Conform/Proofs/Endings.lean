import Conform.Proofs.Encounters

/-!
# How validation ends

Validation fails without a violation if the data has no copy, which only columnar data can lack, or
if what it meets brings a failure with it. So for ordinary data of which no date leaves the calendar
one cause is left: a text whose search for a pattern has no answer
(`Schema.validateShared_ends`). For this neither the schema nor the data has to be out of the
ordinary: a possessive repetition around a group that takes part in some of the rounds only is
enough (`Fields.crossing_fails`).
-/

namespace Conform

/-- **Validation against a mapping** fails without a violation if the data has no copy, or if it
provokes the failure. -/
theorem Fields.provokes_of_validateShared {fs : Fields} {o : Options} {data : Value}
    {e : EngineError}
    (h : fs.validateShared o data = .error (.engine e)) :
    (∃ x, data.plain = .error x ∧ e = .notIterable x) ∨
    ∃ es f, data.plain = .ok (.map es) ∧ Fields.Provokes fs o es f ∧
      ((f = .dateOutOfRange ∧ e = .dateOutOfRange) ∨ ∃ x, f = .search x ∧ e = .search x) := by
  unfold Fields.validateShared at h
  cases hplain : data.plain with
  | error x =>
    rw [hplain] at h
    cases h
    exact .inl ⟨x, rfl, rfl⟩
  | ok w =>
    rw [hplain] at h
    cases w with
    | map es =>
      have hlands : Walk.Lands (Interruption.ExplainedBy o (Fields.Provokes fs o es))
          (fun _ => True) ((⟨.mapping fs, o⟩ : Course).walkShared (Fields.seed fs es)) :=
        Course.lands_walkShared
      replace hlands := hlands []
      dsimp only at h
      cases hend : ((⟨.mapping fs, o⟩ : Course).walkShared (Fields.seed fs es)).run [] with
      | ok r =>
        obtain ⟨v, notes⟩ := r
        rw [hend] at h
        cases notes <;> cases h
      | error i =>
        rw [hend] at h hlands
        cases i with
        | violation v => cases h
        | dateOutOfRange =>
          cases h
          exact .inr ⟨es, _, rfl, hlands, .inl ⟨rfl, rfl⟩⟩
        | search x =>
          cases h
          exact .inr ⟨es, _, rfl, hlands, .inr ⟨x, rfl, rfl⟩⟩
    | _ => cases h

/-! ## Ordinary data -/

namespace Value

mutual
/-- **Whether data is ordinary**: scalars, dates, lists, tuples and maps with text keys. -/
def isOrdinary : Value → Bool
  | .null | .bool _ | .number _ | .text _ | .date _ | .dateTime _ => true
  | .list vs => ordinaryItems vs
  | .tuple vs => ordinaryItems vs
  | .map es => ordinaryEntries es
  | _ => false

/-- Whether the items of a list are ordinary. -/
def ordinaryItems : List Value → Bool
  | [] => true
  | v :: vs => isOrdinary v && ordinaryItems vs

/-- Whether the entries of a map are ordinary. -/
def ordinaryEntries : List (Value × Value) → Bool
  | [] => true
  | (.text _, v) :: es => isOrdinary v && ordinaryEntries es
  | _ => false
end

open Checked

mutual

/-- **Ordinary data has a copy.** -/
theorem plain_of_isOrdinary : ∀ v : Value, v.isOrdinary = true → ∃ w, v.plain = .ok w
  | .list vs, h => by
    obtain ⟨ws, hws⟩ := plainItems_of_ordinaryItems vs h
    exact ⟨.list ws, map_eq_ok.mpr ⟨ws, hws, rfl⟩⟩
  | .tuple vs, h => by
    obtain ⟨ws, hws⟩ := plainItems_of_ordinaryItems vs h
    exact ⟨.list ws, map_eq_ok.mpr ⟨ws, hws, rfl⟩⟩
  | .map es, h => by
    obtain ⟨fs, hfs⟩ := plainEntries_of_ordinaryEntries es h
    exact ⟨.map fs, map_eq_ok.mpr ⟨fs, hfs, rfl⟩⟩
  | .null, _ | .bool _, _ | .number _, _ | .text _, _ | .date _, _ | .dateTime _, _ => ⟨_, rfl⟩

theorem plainItems_of_ordinaryItems :
    ∀ vs : List Value, ordinaryItems vs = true → ∃ ws, plainItems vs = .ok ws
  | [], _ => ⟨[], rfl⟩
  | v :: vs, h => by
    obtain ⟨hv, hvs⟩ := Bool.and_eq_true_iff.mp h
    obtain ⟨w, hw⟩ := plain_of_isOrdinary v hv
    obtain ⟨ws, hws⟩ := plainItems_of_ordinaryItems vs hvs
    exact ⟨w :: ws, bind_eq_ok.mpr ⟨w, hw, map_eq_ok.mpr ⟨ws, hws, rfl⟩⟩⟩

theorem plainEntries_of_ordinaryEntries :
    ∀ es : List (Value × Value), ordinaryEntries es = true → ∃ fs, plainEntries es = .ok fs
  | [], _ => ⟨[], rfl⟩
  | (.text k, v) :: es, h => by
    obtain ⟨hv, hes⟩ := Bool.and_eq_true_iff.mp h
    obtain ⟨w, hw⟩ := plain_of_isOrdinary v hv
    obtain ⟨fs, hfs⟩ := plainEntries_of_ordinaryEntries es hes
    exact ⟨(.text k, w) :: fs, bind_eq_ok.mpr ⟨w, hw, map_eq_ok.mpr ⟨fs, hfs, rfl⟩⟩⟩

end

end Value

/-! ## Schemas -/

section Members

variable {validate : Fields → Validated}

/-- Where no member accepts the data, each of them has a rejection. -/
theorem length_of_tryMembers {ms : List Fields} {rs : List Rejection}
    (h : tryMembers validate ms = .ok (.inr rs)) : rs.length = ms.length := by
  induction ms generalizing rs with
  | nil =>
    cases h
    rfl
  | cons fs ms ih =>
    rw [tryMembers] at h
    split at h
    · cases h
    · cases h
    · obtain ⟨out, hout, h⟩ := Checked.bind_eq_ok.mp h
      cases out with
      | inl v => cases h
      | inr others =>
        cases h
        rw [List.length_cons, List.length_cons, ih hout]

/-- What fails in a union fails in one of its members. -/
theorem exists_of_tryMembers_error {ms : List Fields} {e : EngineError}
    (h : tryMembers validate ms = .error e) : ∃ fs ∈ ms, validate fs = .error (.engine e) := by
  induction ms with
  | nil => cases h
  | cons fs ms ih =>
    rw [tryMembers] at h
    split at h
    next => cases h
    next e' he' =>
      cases h
      exact ⟨fs, List.mem_cons_self, he'⟩
    next =>
      cases hms : tryMembers validate ms with
      | error e' =>
        rw [hms] at h
        cases h
        obtain ⟨gs, hgs, hfail⟩ := ih hms
        exact ⟨gs, List.mem_cons_of_mem _ hgs, hfail⟩
      | ok out =>
        rw [hms] at h
        cases out <;> cases h

/-- What fails in a schema fails in one of its members. -/
theorem Schema.exists_of_validateBy_error {s : Schema} {o : Options} {e : EngineError}
    (h : s.validateBy validate o = .error (.engine e)) :
    ∃ fs ∈ s.members, validate fs = .error (.engine e) := by
  cases s with
  | mapping fs => exact ⟨fs, List.mem_cons_self, h⟩
  | union fs gs hs =>
    rw [Schema.validateBy] at h
    cases hms : tryMembers validate (fs :: gs :: hs) with
    | error e' =>
      rw [hms] at h
      cases h
      exact exists_of_tryMembers_error hms
    | ok out =>
      rw [hms] at h
      cases out <;> cases h

/-- **How validation ends.** For a schema and ordinary data of which no date leaves the calendar, it
returns, or it rejects the data with at least one violation, or there is one cause left: a text is
met whose search for a pattern has no answer. Every type has candidates, of which a value resolves
to one that is prepared for its checks, and every member of a union that accepts nothing has a
rejection. -/
theorem Schema.validateShared_ends (s : Schema) {data : Value} (hdata : data.isOrdinary = true)
    (o : Options) (hdates : ∀ fs ∈ s.members, ∀ es, data.plain = .ok (.map es) →
      ¬ Fields.Provokes fs o es .dateOutOfRange) :
    ((∃ r, s.validateShared o data = .ok r) ∨
      (∃ z, s.validateShared o data = .error (.rejected z) ∧ z.violations ≠ []) ∨
      ∃ e, s.validateShared o data = .error (.engine (.search e)) ∧
        ∃ fs ∈ s.members, ∃ es, data.plain = .ok (.map es) ∧ Fields.Provokes fs o es (.search e)) ∧
    (∀ fs ∈ s.members, ∀ path t, Fields.locate fs path = some t →
      t.candidates ≠ [] ∧ ∀ v, t.resolve v ∈ t.candidates ∧ (t.resolve v).Prepared) ∧
    s.members ≠ [] ∧ ∀ rs,
      tryMembers (fun fs => fs.validateShared o data) s.members = .ok (.inr rs) →
        rs.length = s.members.length := by
  refine ⟨?_, fun fs _ path t _ => ⟨?_, fun v => ⟨t.resolve_mem v, Node.prepared _⟩⟩, ?_,
    fun rs => length_of_tryMembers⟩
  · cases hrun : s.validateShared o data with
    | ok r => exact .inl ⟨r, rfl⟩
    | error failure =>
      cases failure with
      | rejected z => exact .inr (.inl ⟨z, rfl, List.cons_ne_nil _ _⟩)
      | engine e =>
        obtain ⟨fs, hmem, hfail⟩ := Schema.exists_of_validateBy_error hrun
        rcases Fields.provokes_of_validateShared hfail with
          ⟨x, hplain, -⟩ | ⟨es, f, hplain, hprovokes, ⟨rfl, -⟩ | ⟨x, rfl, rfl⟩⟩
        · obtain ⟨w, hw⟩ := Value.plain_of_isOrdinary data hdata
          cases hw.symm.trans hplain
        · exact absurd hprovokes (hdates fs hmem es hplain)
        · exact .inr (.inr ⟨x, rfl, fs, hmem, es, hplain, hprovokes⟩)
  · exact List.ne_nil_of_mem t.first_mem
  · cases s <;> exact List.cons_ne_nil _ _

end Members

/-! ## A default at the edge of the calendar -/

/-- A day that is there by default: the second hour of the calendar, an hour east. -/
def Fields.firstDay : Fields :=
  [("day", .single (.date { default? := some (some "0001-01-01T01:00:00+01:00") } {}))]

/-- In an empty map, once it is marked, nothing stands but a mark and the default that takes its
place. -/
theorem Fields.firstDay_holds {path : Path} {v : Value}
    (h : Fields.Holds Fields.firstDay [] path v) :
    (path = [] ∧ v = .map [(.text "day", .absent)]) ∨ (path = [.text "day"] ∧
      (v = .absent ∨ v = .text "0001-01-01T01:00:00+01:00")) := by
  induction h with
  | root => exact .inl ⟨rfl, rfl⟩
  | entry h hmem ih =>
    rcases ih with ⟨rfl, ih⟩ | ⟨-, ih | ih⟩ <;> cases ih
    obtain ⟨rfl, rfl⟩ := Prod.mk.inj (List.mem_singleton.mp hmem)
    exact .inr ⟨rfl, .inl rfl⟩
  | item h hget ih => rcases ih with ⟨-, ih⟩ | ⟨-, ih | ih⟩ <;> cases ih
  | default h ht hd _ ih =>
    rcases ih with ⟨-, ih⟩ | ⟨rfl, -⟩
    · cases ih
    · cases ht
      cases hd
      exact .inr ⟨rfl, .inr rfl⟩

/-- Moved to universal time, the default is the first instant of the calendar. -/
theorem Schema.firstDay_ends :
    ((∃ r, (mapping Fields.firstDay).validateShared {} (.map []) = .ok r) ∨
      (∃ z, (mapping Fields.firstDay).validateShared {} (.map []) = .error (.rejected z) ∧
        z.violations ≠ []) ∨
      ∃ e, (mapping Fields.firstDay).validateShared {} (.map []) = .error (.engine (.search e)) ∧
        ∃ fs ∈ (mapping Fields.firstDay).members, ∃ es,
          (Value.map []).plain = .ok (.map es) ∧ Fields.Provokes fs {} es (.search e)) ∧
    (mapping Fields.firstDay).members ≠ [] := by
  have hdates : ∀ fs ∈ (mapping Fields.firstDay).members, ∀ es,
      (Value.map []).plain = .ok (.map es) → ¬ Fields.Provokes fs {} es .dateOutOfRange := by
    rintro fs hmem es ⟨⟩ ⟨path, v, t, hmeets, ht, -, hrange⟩
    obtain rfl := List.mem_singleton.mp hmem
    rcases Fields.firstDay_holds (hmeets.holds rfl) with ⟨rfl, rfl⟩ | ⟨-, rfl | rfl⟩
    · cases ht
    · cases hrange
    · exact absurd hrange (by decide +kernel)
  have h := (mapping Fields.firstDay).validateShared_ends rfl {} hdates
  exact ⟨h.1, h.2.2.1⟩

/-! ## A pattern whose search has no answer -/

/-- Where no node is a date, no date leaves the calendar. -/
theorem Fields.not_provokes_dateOutOfRange {fs : Fields} {o : Options} {es : List (Value × Value)}
    (h : Fields.everyType (fun t => t.candidates.all (fun n => n.kind != .date)) fs = true) :
    ¬ Fields.Provokes fs o es .dateOutOfRange := by
  rintro ⟨path, v, t, -, ht, hkind, -⟩
  have hmapping : (Schema.mapping fs).everyType
      (fun t => t.candidates.all (fun n => n.kind != .date)) = true := h
  have hall := Schema.everyType_of_locate hmapping ht
  rw [TypeSpec.everyType_eq] at hall
  have hnode := List.all_eq_true.mp (Bool.and_eq_true_iff.mp hall).1 _ (t.resolve_mem v)
  rw [hkind] at hnode
  cases hnode

/-- One character after the other, the first in a group, and no round is given back. -/
def Pattern.alternating : Pattern where
  source := "(?:(a)|b)*+"
  regex := .repetition .possessive 0 none
    (.alt (.group (some 1) (.atom (.code false 97) {})) (.atom (.code false 98) {}))
  spells := rfl

/-- A field for such texts. -/
def Fields.crossing : Fields := [("f", .single (.string {} { pattern := some .alternating }))]

/-- The document that this field is read from. -/
def Schema.crossingDocument : Value :=
  .map [(.text "f", .map [(.text "type", .text "string"), (.text "pattern", .text "(?:(a)|b)*+")])]

/-- **Validation does not always return or reject**, not even where no date is declared and there is
no default: in the text `abb`, the attempts to match the group at a `b` leave its start behind its
end, and the search has no answer. -/
theorem Fields.crossing_fails :
    ¬ ∀ (raw : RawDocument) (data : Value) (s : Schema) (o : Options), Schema.read raw = .ok s →
      s.everyType (TypeSpec.defaultsPass Value.isPlain) = true → data.isOrdinary = true →
      (∀ fs ∈ s.members, ∀ es, data.plain = .ok (.map es) →
        ¬ Fields.Provokes fs o es .dateOutOfRange) →
      (∃ r, s.validateShared o data = .ok r) ∨
        ∃ z, s.validateShared o data = .error (.rejected z) ∧ z.violations ≠ [] := by
  intro hends
  have hfails :
      (Schema.mapping Fields.crossing).validateShared {} (.map [(.text "f", .text "abb")]) =
      .error (.engine (.search .crossedGroup)) := rfl
  have hdates : ∀ fs ∈ (Schema.mapping Fields.crossing).members, ∀ es,
      (Value.map [(.text "f", .text "abb")]).plain = .ok (.map es) →
      ¬ Fields.Provokes fs {} es .dateOutOfRange := by
    intro fs hmem es _
    obtain rfl := List.mem_singleton.mp hmem
    exact Fields.not_provokes_dateOutOfRange rfl
  rcases hends Schema.crossingDocument _ (.mapping Fields.crossing) {} rfl rfl rfl hdates with
    ⟨r, hr⟩ | ⟨z, hz, -⟩
  · cases hfails.symm.trans hr
  · cases hfails.symm.trans hz

end Conform
