import Feel.Operation.Texts
import Feel.Proofs.CalendarTexts
import Feel.Proofs.ValueOrder
import Feel.Proofs.ZonedInstants

/-!
# Date-times of a zone as text

A date-time of a zone is written as what the zone's clocks show, together with the zone's name. The
offset is not written, so that the text names the first instant at which those clocks show it, which
is an earlier one where clocks were set back.
-/

namespace Feel.Proofs
open Text

/-! ### What the reader returns -/

/-- A date-time at which the clocks of one of the zones are looked at. -/
structure IsZoned (zones : List Zone) (t : DateTime) (zone : Zone) : Prop where
  zone_eq : t.zone = some zone
  known : Zone.ofName? zones zone.name = some zone
  offset_eq : t.offset = zone.offsetAt t.seconds

lemma IsZoned.isFirst_iff {zones : List Zone} {t : DateTime} {zone : Zone} (h : IsZoned zones t zone) :
    IsFirst zone t ↔ IsFirstShowing zone.timeline (shownSeconds t) t.seconds :=
  (and_iff_right (shows_of_offset_eq h.offset_eq)).symm

lemma ofName?_name {zones : List Zone} {name : String} {zone : Zone}
    (h : Zone.ofName? zones name = some zone) : Zone.ofName? zones zone.name = some zone := by
  have hname := List.find?_some h
  rw [eq_of_beq hname]
  exact h

lemma ofParts_isZoned {zones : List Zone} {parts : DateTime.Parts} {t : DateTime} {zone : Zone}
    (hknown : ∀ z ∈ parts.zone, Zone.ofName? zones z.name = some z) (h : DateTime.ofParts parts = .ok t)
    (hzone : t.zone = some zone) : IsZoned zones t zone ∧ (parts.offset = none → IsFirst zone t) := by
  cases ofParts_eq_ok_iff.mp h with
  | universal _ _ hz => exact absurd (hz.symm.trans hzone) (by simp)
  | atOffset _ hz => exact absurd (hz.symm.trans hzone) (by simp)
  | moved _ hz hoffset =>
    obtain rfl := Option.some.inj (hz.symm.trans hzone)
    exact ⟨⟨hzone, hknown _ rfl, hoffset⟩, fun hnone => absurd hnone (by simp)⟩
  | inZone hshown hz hoffset hfirst =>
    obtain rfl := Option.some.inj (hz.symm.trans hzone)
    exact ⟨⟨hzone, hknown _ rfl, hoffset⟩, fun _ => (isFirst_iff hshown).mpr hfirst⟩

lemma readParts?_zone {zones : List Zone} {cs : List Char} {parts : DateTime.Parts}
    (h : DateTime.readParts? zones cs = some parts) :
    ∀ z ∈ parts.zone, Zone.ofName? zones z.name = some z := by
  unfold DateTime.readParts? at h
  simp only [Option.bind_eq_bind, Option.bind_eq_some_iff] at h
  obtain ⟨zone, hzone, _, _, _, _, _, _, hparts⟩ := h
  intro z hz
  rw [← Option.some.inj hparts] at hz
  obtain rfl := Option.mem_def.mp hz
  cases hname : (DateTime.cutZone cs).2 with
  | none => simp [hname] at hzone
  | some name =>
    rw [hname] at hzone
    obtain ⟨known, hknown, heq⟩ := Option.map_eq_some_iff.mp hzone
    obtain rfl := Option.some.inj heq
    exact ofName?_name hknown

lemma parseIn_eq_ok {zones : List Zone} {literal : String} {t : DateTime}
    (h : DateTime.parseIn zones literal = .ok t) :
    ∃ parts, DateTime.readParts? zones literal.toList = some parts ∧ DateTime.ofParts parts = .ok t := by
  unfold DateTime.parseIn at h
  split at h
  · exact absurd h (by simp)
  · rename_i parts hparts
    exact ⟨parts, hparts, mapError_eq_ok_iff.mp h⟩

/-! ### The text -/

lemma offset_cut_eq_self {cs : List Char}
    (h : ∀ x ∈ cs, x ≠ 'Z' ∧ x ≠ 'z' ∧ x ≠ '+' ∧ x ≠ '-') : Offset.cut cs = (cs, none) := by
  have hsign : Offset.cutAtSign? cs = none := by
    have htail : (cs.reverse.takeWhile fun c => !(c == '+' || c == '-')) = cs.reverse := by
      rw [List.takeWhile_eq_self_iff]
      intro x hx
      obtain ⟨-, -, hplus, hminus⟩ := h x (List.mem_reverse.mp hx)
      simp [hplus, hminus]
    rw [Offset.cutAtSign?, if_pos]
    left
    rw [htail, List.reverse_reverse]
  unfold Offset.cut
  split
  · exact absurd rfl (h 'Z' (List.mem_of_getLast? (by assumption))).1
  · exact absurd rfl (h 'z' (List.mem_of_getLast? (by assumption))).2.1
  · rw [hsign]

lemma offset_cut_clock_text (c : Clock) : Offset.cut c.text = (c.text, none) := by
  refine offset_cut_eq_self fun x hx => ?_
  have hmem : x.isDigit = true ∨ x ∈ [':', '.'] := by simpa using mem_clock_text hx
  have hne {c : Char} (hdigit : c.isDigit = false) (hc : c ∉ [':', '.']) : x ≠ c :=
    ne_of_isDigit_or_mem hmem hdigit hc
  exact ⟨hne (by decide) (by decide), hne (by decide) (by decide), hne (by decide) (by decide),
    hne (by decide) (by decide)⟩

lemma mem_textWith {t : LocalDateTime} {x : Char} (h : x ∈ t.textWith 'T') :
    x.isDigit = true ∨ x ∈ ['-', '+', 'T', ':', '.'] := by
  rw [LocalDateTime.textWith, List.mem_append, List.mem_cons] at h
  obtain h | rfl | h := h
  · obtain hd | rfl | rfl := mem_date_text h
    · exact Or.inl hd
    · exact Or.inr (by simp)
    · exact Or.inr (by simp)
  · exact Or.inr (by simp)
  · obtain hd | rfl | rfl := mem_clock_text h
    · exact Or.inl hd
    · exact Or.inr (by simp)
    · exact Or.inr (by simp)

lemma cutZone_textWith (t : LocalDateTime) (name : List Char) :
    DateTime.cutZone (t.textWith 'T' ++ '@' :: name) = (t.textWith 'T', some name) := by
  have hfree : ∀ x ∈ t.textWith 'T', (x == '@') = false := by
    intro x hx
    rw [beq_eq_false_iff_ne]
    exact ne_of_isDigit_or_mem (mem_textWith hx) (by decide) (by decide)
  rw [DateTime.cutZone, splitOnce_append hfree rfl]

lemma splitOnce_date_text (d : Date) (rest : List Char) :
    splitOnce (· == 'T') (d.text ++ 'T' :: rest) = (d.text, some rest) := by
  refine splitOnce_append (fun x hx => ?_) rfl
  obtain hd | rfl | rfl := mem_date_text hx
  · exact beq_eq_false_of_isDigit hd (by decide)
  · rfl
  · rfl

lemma splitOnce_textWith (t : LocalDateTime) :
    splitOnce (· == 'T') (t.textWith 'T') = (t.date.text, some t.clock.text) :=
  splitOnce_date_text t.date t.clock.text

/-- The text of a date-time of a zone has what the clocks show, no offset, and the zone. -/
lemma readParts?_text {zones : List Zone} {t : DateTime} {zone : Zone} (h : IsZoned zones t zone)
    {cs : List Char} (htext : t.text = .ok cs) :
    ∃ shown, t.shown = .ok shown ∧ DateTime.readParts? zones cs = some ⟨shown, none, some zone⟩ := by
  obtain ⟨shown, hshown, rfl⟩ := map_eq_ok_iff.mp htext
  refine ⟨shown, hshown, ?_⟩
  rw [DateTime.readParts?, h.zone_eq]
  simp only [cutZone_textWith, splitOnce_textWith, DateTime.cutClock, offset_cut_clock_text,
    date_parse?_text, clock_parse?_text, Option.mapM_some, Option.mapM_none, String.ofList_toList, h.known]
  rfl

lemma dateTime_text (t : DateTime) : (Value.dateTime t).text = t.text.map String.ofList := by
  rw [Value.text, Value.display]
  rintro s hs
  exact Value.noConfusion hs

/-- What is shown is written. -/
lemma string_dateTime {t : DateTime} {s : String} :
    Operation.string [.dateTime t] = .ok (.string s) ↔ t.text = .ok s.toList := by
  rw [Operation.string, dateTime_text]
  cases t.text with
  | error => simp [Except.map, Except.mapError]
  | ok cs => simp [Except.map, Except.mapError, ← String.toList_inj]

lemma exists_string_dateTime {t : DateTime} {shown : LocalDateTime} (h : t.shown = .ok shown) :
    ∃ s, Operation.string [.dateTime t] = .ok (.string s) := by
  obtain ⟨cs, hcs⟩ : ∃ cs, t.text = .ok cs := ⟨_, map_eq_ok_iff.mpr ⟨shown, h, rfl⟩⟩
  exact ⟨String.ofList cs, string_dateTime.mpr (by rw [hcs, String.toList_ofList])⟩

lemma parseIn_of_readParts? {zones : List Zone} {s : String} {parts : DateTime.Parts}
    (h : DateTime.readParts? zones s.toList = some parts) :
    DateTime.parseIn zones s = (DateTime.ofParts parts).mapError .badArgument := by
  rw [DateTime.parseIn, h]

/-- Date-times that show the same local time name one instant if it is one second of their zone. -/
lemma instant_eq_iff {a b : DateTime} {shown : LocalDateTime} (ha : a.shown = .ok shown)
    (hb : b.shown = .ok shown) : a.instant = b.instant ↔ a.seconds = b.seconds := by
  have hseconds : shownSeconds a = shownSeconds b := (seconds_of_shown ha).symm.trans (seconds_of_shown hb)
  rw [instant_of_shown ha, instant_of_shown hb, Offset.nanos, Offset.nanos, nanosPerSecond]
  unfold shownSeconds at hseconds
  omega

lemma isFirst_iff_seconds_eq {zones : List Zone} {t : DateTime} {zone : Zone} {i : ℤ}
    (h : IsZoned zones t zone) (hi : IsFirstShowing zone.timeline (shownSeconds t) i) :
    IsFirst zone t ↔ i = t.seconds := by
  rw [h.isFirst_iff]
  constructor
  · intro hfirst
    exact hi.unique hfirst
  · rintro rfl
    exact hi

/-- The text of a date-time of a zone is read as a date-time of the zone that shows the same local
time, at the first instant that does. It is the same instant exactly if no earlier one shows that local
time, as always for a literal without an offset. Date-times of the zone with the same text show the
same local time, and name the same instant if each is the first that does. -/
theorem parseIn_text {zones : List Zone} {literal : String} {t : DateTime} {zone : Zone}
    {shown : LocalDateTime} (h : DateTime.parseIn zones literal = .ok t) (hzone : t.zone = some zone)
    (hshown : t.shown = .ok shown) :
    (∃ s r, Operation.string [.dateTime t] = .ok (.string s) ∧ DateTime.parseIn zones s = .ok r ∧
        r.zone = some zone ∧ r.shown = .ok shown ∧
        IsFirstShowing zone.timeline shown.seconds r.seconds ∧
        ((Value.dateTime r == Value.dateTime t) = true ↔ IsFirst zone t)) ∧
      (∀ parts, DateTime.readParts? zones literal.toList = some parts → parts.offset = none →
        IsFirst zone t) ∧
      ∀ other u, DateTime.parseIn zones other = .ok u → u.zone = some zone →
        Operation.string [.dateTime u] = Operation.string [.dateTime t] →
        u.shown = .ok shown ∧
          (IsFirst zone u → IsFirst zone t → (Value.dateTime u == Value.dateTime t) = true) := by
  obtain ⟨parts, hparts, hmade⟩ := parseIn_eq_ok h
  obtain ⟨hzoned, hfirst⟩ := ofParts_isZoned (readParts?_zone hparts) hmade hzone
  obtain ⟨s, hs⟩ := exists_string_dateTime hshown
  have hread {u : DateTime} (hu : IsZoned zones u zone)
      (htext : Operation.string [.dateTime u] = .ok (.string s)) :
      ∃ shown, u.shown = .ok shown ∧ DateTime.readParts? zones s.toList = some ⟨shown, none, some zone⟩ :=
    readParts?_text hu (string_dateTime.mp htext)
  obtain ⟨shown', hshown', hreads⟩ := hread hzoned hs
  obtain rfl := Except.ok.inj (hshown.symm.trans hshown')
  have hshows : Shows zone.timeline shown.seconds t.seconds := by
    rw [seconds_of_shown hshown]
    exact shows_of_offset_eq hzoned.offset_eq
  obtain ⟨r, hr, hrzone, hrshown, hrfirst⟩ := exists_inZone_of_shows hshows (isInstant_seconds t.utc)
  have hrfirst' : IsFirstShowing zone.timeline (shownSeconds t) r.seconds := seconds_of_shown hshown ▸ hrfirst
  refine ⟨⟨s, r, hs, ?_, hrzone, hrshown, hrfirst, ?_⟩, ?_, ?_⟩
  · have hmade : DateTime.ofParts ⟨shown, none, some zone⟩ = .ok r := hr
    rw [parseIn_of_readParts? hreads, hmade]
    rfl
  · -- The reader finds the first instant; it is that of the date-time only if that is the first one too.
    rw [dateTime_beq, instant_eq_iff hrshown hshown, isFirst_iff_seconds_eq hzoned hrfirst']
  · intro parts' hparts' hnone
    obtain rfl := Option.some.inj (hparts.symm.trans hparts')
    exact hfirst hnone
  · intro other u hu huzone htext
    obtain ⟨partsU, hpartsU, hmadeU⟩ := parseIn_eq_ok hu
    obtain ⟨hzonedU, -⟩ := ofParts_isZoned (readParts?_zone hpartsU) hmadeU huzone
    obtain ⟨shownU, hshownU, hreadsU⟩ := hread hzonedU (htext.trans hs)
    obtain rfl : shownU = shown :=
      (DateTime.Parts.mk.inj (Option.some.inj (hreadsU.symm.trans hreads))).1
    refine ⟨hshownU, fun hufirst htfirst => ?_⟩
    have hrfirstU : IsFirstShowing zone.timeline (shownSeconds u) r.seconds :=
      seconds_of_shown hshownU ▸ hrfirst
    rw [isFirst_iff_seconds_eq hzonedU hrfirstU] at hufirst
    rw [isFirst_iff_seconds_eq hzoned hrfirst'] at htfirst
    rw [dateTime_beq, instant_eq_iff hshownU hshown]
    exact hufirst.symm.trans htfirst

/-- The zone of Paris. -/
def paris : Zone := ⟨"Europe/Paris", Zone.Paris.timeline⟩

/-- Half past two in a night in which clocks in Paris are set back from three to two. -/
def nightInParis : LocalDateTime := ⟨⟨2024, 10, 27, by decide⟩, ⟨9000 * nanosPerSecond, by decide⟩⟩

/-- The first time that clocks there show it. -/
def beforeSetBack : DateTime where
  utc := ⟨⟨2024, 10, 27, by decide⟩, ⟨1800 * nanosPerSecond, by decide⟩⟩
  offset := Zone.Paris.centralSummer
  zone := some paris

/-- The second time. -/
def afterSetBack : DateTime where
  utc := ⟨⟨2024, 10, 27, by decide⟩, ⟨5400 * nanosPerSecond, by decide⟩⟩
  offset := Zone.Paris.central
  zone := some paris

theorem parseIn_text_paris :
    DateTime.parseIn Zone.all "2024-10-27T02:30:00+01:00@Europe/Paris" = .ok afterSetBack ∧
      afterSetBack.zone = some paris ∧ afterSetBack.shown = .ok nightInParis ∧
      ∃ s r, Operation.string [.dateTime afterSetBack] = .ok (.string s) ∧
        DateTime.parseIn Zone.all s = .ok r ∧ r.zone = some paris ∧ r.shown = .ok nightInParis ∧
        IsFirstShowing paris.timeline nightInParis.seconds r.seconds ∧
        ((Value.dateTime r == Value.dateTime afterSetBack) = true ↔ IsFirst paris afterSetBack) := by
  have hread : DateTime.parseIn Zone.all "2024-10-27T02:30:00+01:00@Europe/Paris" = .ok afterSetBack := by
    decide +kernel
  have hzone : afterSetBack.zone = some paris := rfl
  have hshown : afterSetBack.shown = .ok nightInParis := by decide +kernel
  exact ⟨hread, hzone, hshown, (parseIn_text hread hzone hshown).1⟩

/-- The text of the second half past two is read as the first one, an hour earlier. -/
theorem parse_text_setBack :
    DateTime.parse "2024-10-27T02:30:00+01:00@Europe/Paris" = .ok afterSetBack ∧
      Operation.string [.dateTime afterSetBack] = .ok (.string "2024-10-27T02:30:00@Europe/Paris") ∧
      DateTime.parse "2024-10-27T02:30:00@Europe/Paris" = .ok beforeSetBack ∧
      Operation.string [.dateTime beforeSetBack] = .ok (.string "2024-10-27T02:30:00@Europe/Paris") ∧
      (Value.dateTime beforeSetBack == Value.dateTime afterSetBack) = false := by
  refine ⟨by decide +kernel, ?_, by decide +kernel, ?_, by decide +kernel⟩ <;>
    exact string_dateTime.mpr (by decide +kernel)

end Feel.Proofs
