import Conform.Proofs.DateBounds
import Conform.Proofs.Endings
import Conform.Proofs.Timeline

/-!
# The edge of the calendar

A value that is to be a date is converted to an instant, or it is reported: a text that is none as a
violation, and a bound that is none as an issue of the schema. This leaves out the values that name
a date-time near an end of the calendar which lies beyond this end in universal time. They are
converted by nothing and reported by nothing. A check ends in a failure of its own for them, and so
does the reading of a schema.

Here it is shown that there is no other way out. A check, the reading of a schema and validation end
in these failures only if a value leaves the calendar (`Value.LeavesCalendar`), which is told from
its moment alone (`Schema.escapes_only_off_calendar`).
-/

namespace Conform

/-- **Conversion** ends out of range exactly if the value leaves the calendar. -/
theorem Value.instant_ends (v : Value) :
    (v.LeavesCalendar ∧ v.instant = .error .outOfRange) ∨
      (¬ v.LeavesCalendar ∧ ((∃ i, v.instant = .ok i ∧ v.moment? = some i.count) ∨
        ∃ e, v.instant = .error e ∧ e ≠ .outOfRange)) := by
  rw [← instant_eq_outOfRange_iff]
  cases hv : v.instant with
  | ok i => exact .inr ⟨nofun, .inl ⟨i, rfl, instant_eq_ok_iff.mp hv⟩⟩
  | error e =>
    by_cases he : e = .outOfRange
    · exact .inl ⟨by rw [he], by rw [he]⟩
    · exact .inr ⟨fun h => he (Except.error.inj h), .inr ⟨e, rfl, he⟩⟩

/-- **The check of a date** ends without a result and without a violation exactly if the value
leaves the calendar. -/
theorem Node.check_date_ends (p : Presence String) (r : DateRules) (site : Site) (v : Value) :
    (v.LeavesCalendar ∧ (Node.date p r).check site v = .error .dateOutOfRange) ∨
      (¬ v.LeavesCalendar ∧
        ((∃ i, v.instant = .ok i ∧ (Node.date p r).check site v = .ok (.dateTime i.toDateTime)) ∨
          ∃ w, (Node.date p r).check site v = .error (.violation w))) := by
  have hcheck : (Node.date p r).check site v = (DateRules.instant site v >>= fun i =>
      r.check site i >>= fun _ => .ok (.dateTime i.toDateTime)) := rfl
  rw [hcheck]
  unfold DateRules.instant
  rcases v.instant_ends with ⟨hoff, hv⟩ | ⟨hon, ⟨i, hi, -⟩ | ⟨e, he, hne⟩⟩
  · rw [hv]
    exact .inl ⟨hoff, rfl⟩
  · refine .inr ⟨hon, ?_⟩
    rw [hi]
    -- the bounds are asked for one after the other, and each reports a violation
    cases hr : r.check site i with
    | ok u => exact .inl ⟨i, rfl, congrArg (· >>= fun _ => _) hr⟩
    | error f =>
      obtain ⟨w, rfl⟩ := r.failsFor_check (P := fun f => ∃ w, f = .violation w)
        (fun w => ⟨w, rfl⟩) i f hr
      exact .inr ⟨w, congrArg (· >>= fun _ => _) hr⟩
  · refine .inr ⟨hon, .inr ?_⟩
    rw [he]
    cases e with
    | outOfRange => exact absurd rfl hne
    | _ => exact ⟨_, rfl⟩

/-- The reading of a schema fails as that of its value does, whatever the document shares. -/
theorem Schema.read_eq_failed_iff {raw : RawDocument} {f : Fault} :
    Schema.read raw = .failed f ↔ Schema.ofValue raw.value = .failed f := by
  unfold Schema.read
  cases raw.sharing with
  | nil => exact Iff.rfl
  | cons places s =>
    cases h : Schema.ofValue raw.value with
    | ok s => exact ⟨nofun, nofun⟩
    | failed f => exact Iff.rfl

/-- **What escapes a report lies off the calendar.** A value is converted to the instant of its
moment or refused, and a date node gives back this instant or reports a violation, but for the
values that leave the calendar. A text that a schema gives as a bound on dates and that names no
instant makes the reading of the schema fail, and it escapes as an overflow only if some such text
leaves the calendar. Validation ends so only if it meets a value that leaves the calendar at a place
that a date node governs. -/
theorem Schema.escapes_only_off_calendar (v : Value) (p : Presence String) (r : DateRules)
    (site : Site) (raw : RawDocument) (s : Schema) (o : Options) (data : Value) :
    ((v.LeavesCalendar ∧ v.instant = .error .outOfRange) ∨
      (¬ v.LeavesCalendar ∧ ((∃ i, v.instant = .ok i ∧ v.moment? = some i.count) ∨
        ∃ e, v.instant = .error e ∧ e ≠ .outOfRange))) ∧
    ((v.LeavesCalendar ∧ (Node.date p r).check site v = .error .dateOutOfRange) ∨
      (¬ v.LeavesCalendar ∧
        ((∃ i, v.instant = .ok i ∧ (Node.date p r).check site v = .ok (.dateTime i.toDateTime)) ∨
          ∃ w, (Node.date p r).check site v = .error (.violation w)))) ∧
    (∀ bound, Schema.GivesBound raw.value bound → (∀ i, (Value.text bound).instant ≠ .ok i) →
      ∃ f, Schema.read raw = .failed f ∧
        ((Value.text bound).LeavesCalendar → ∃ x, f = .overflow x)) ∧
    (Schema.read raw = .failed (.overflow .date) →
      ∃ bound, Schema.GivesBound raw.value bound ∧ (Value.text bound).LeavesCalendar) ∧
    (s.validateShared o data = .error (.engine .dateOutOfRange) →
      ∃ fs ∈ s.members, ∃ es path u t, data.plain = .ok (.map es) ∧ Fields.Meets fs o es path u ∧
        Fields.locate fs path = some t ∧ (t.resolve u).kind = .date ∧ u.LeavesCalendar) := by
  refine ⟨v.instant_ends, Node.check_date_ends p r site v, ?_, ?_, ?_⟩
  · intro bound hgives hnone
    cases hbound : (Value.text bound).instant with
    | ok i => exact absurd hbound (hnone i)
    | error e =>
      obtain ⟨f, hf, hoverflow⟩ := Schema.read_of_givesBound hgives hbound
      refine ⟨f, Schema.read_eq_failed_iff.mpr hf, fun hoff => hoverflow ?_⟩
      exact Except.error.inj (hbound.symm.trans (Value.instant_eq_outOfRange_iff.mpr hoff))
  · intro hraw
    obtain ⟨bound, hgives, hbound⟩ := Schema.overflowsFor_ofValue raw.value
      (Schema.read_eq_failed_iff.mp hraw)
    exact ⟨bound, hgives, Value.instant_eq_outOfRange_iff.mp hbound⟩
  · intro h
    obtain ⟨fs, hmem, hfail⟩ := Schema.exists_of_validateBy_error h
    rcases Fields.provokes_of_validateShared hfail with
      ⟨x, -, ⟨⟩⟩ | ⟨es, f, hplain, ⟨path, u, t, hmeets, ht, hexplains⟩, ⟨rfl, -⟩ | ⟨x, -, ⟨⟩⟩⟩
    exact ⟨fs, hmem, es, path, u, t, hplain, hmeets, ht, hexplains.1,
      Value.instant_eq_outOfRange_iff.mp hexplains.2⟩

/-! ## The first hour of the calendar -/

/-- The first hour of the calendar, an hour east. -/
def firstHour : String := "0001-01-01T00:00:00+01:00"

/-- A schema with a date that is bounded by a text. -/
def Schema.boundedDocument (bound : String) : Value :=
  .map [(.text "d", .map [(.text "type", .text "date"), (.text "min", .text bound)])]

theorem Schema.validateShared_firstHour :
    (Schema.mapping [("d", .single (.date {} {}))]).validateShared {}
      (.map [(.text "d", .text firstHour)]) = .error (.engine .dateOutOfRange) := by
  with_unfolding_all rfl

theorem Schema.read_firstHour :
    Schema.read (Schema.boundedDocument firstHour) = .failed (.overflow .date) := by
  with_unfolding_all rfl

/-- This text is a date, but it is neither converted nor refused. As data it ends validation, and as
a bound it ends the reading of the schema, without a violation and without an issue. -/
theorem Schema.firstHour_escapes :
    instantOfText firstHour = .error .outOfRange ∧
      (Schema.mapping [("d", .single (.date {} {}))]).validateShared {}
        (.map [(.text "d", .text firstHour)]) = .error (.engine .dateOutOfRange) ∧
      Schema.read (Schema.boundedDocument firstHour) = .failed (.overflow .date) :=
  ⟨by with_unfolding_all rfl, Schema.validateShared_firstHour, Schema.read_firstHour⟩

/-- The text leaves the calendar, and so does what validation and the reading of the schema meet. A
text that is no date at all is refused in both places. -/
theorem Schema.firstHour_off_calendar :
    ((∃ s, Schema.GivesBound (Schema.boundedDocument firstHour) s ∧
        (Value.text s).LeavesCalendar) ∧
      ∃ x, Schema.read (Schema.boundedDocument firstHour) = .failed (.overflow x)) ∧
    (∃ f, Schema.read (Schema.boundedDocument "soon") = .failed f) ∧
    (∃ w, (Node.date {} {}).check ⟨⟨[]⟩, "d"⟩ (.text "soon") = .error (.violation w)) ∧
    ∃ fs ∈ (Schema.mapping [("d", .single (.date {} {}))]).members, ∃ es path v t,
      (Value.map [(.text "d", .text firstHour)]).plain = .ok (.map es) ∧
        Fields.Meets fs {} es path v ∧ Fields.locate fs path = some t ∧
        (t.resolve v).kind = .date ∧ v.LeavesCalendar := by
  have hsoon : instantOfText "soon" = .error .notIso := by decide +kernel
  have hnone : ∀ i, (Value.text "soon").instant ≠ .ok i := fun i hi => nomatch hsoon.symm.trans hi
  have hgives : Schema.GivesBound (Schema.boundedDocument "soon") "soon" := by
    have hmin : "min" ∈ Kind.date.ruleNames := by decide
    exact .field List.mem_cons_self (.single (.bound rfl hmin rfl rfl))
  -- once with the text as data and as a bound, and once with a text that is no date
  obtain ⟨-, -, -, hoverflow, hvalidate⟩ := Schema.escapes_only_off_calendar (.text firstHour) {} {}
    ⟨⟨[]⟩, "d"⟩ (Schema.boundedDocument firstHour)
    (.mapping [("d", .single (.date {} {}))]) {} (.map [(.text "d", .text firstHour)])
  obtain ⟨-, hcheck, hreport, -, -⟩ := Schema.escapes_only_off_calendar (.text "soon") {} {}
    ⟨⟨[]⟩, "d"⟩ (Schema.boundedDocument "soon")
    (.mapping [("d", .single (.date {} {}))]) {} (.map [(.text "d", .text "soon")])
  refine ⟨⟨hoverflow Schema.read_firstHour, _, Schema.read_firstHour⟩, ?_, ?_,
    hvalidate Schema.validateShared_firstHour⟩
  · obtain ⟨f, hf, -⟩ := hreport "soon" hgives hnone
    exact ⟨f, hf⟩
  · rcases hcheck with ⟨hoff, -⟩ | ⟨-, ⟨i, hi, -⟩ | hw⟩
    · cases hsoon.symm.trans (Value.instant_eq_outOfRange_iff.mpr hoff)
    · exact absurd hi (hnone i)
    · exact hw

end Conform
