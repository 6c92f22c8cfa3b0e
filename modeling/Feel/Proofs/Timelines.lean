import Feel.Calendar.Timeline
import Mathlib

/-!
# Timelines

A local time may be shown at several instants, or at none. The search through a timeline's periods
finds the first such instant, because the periods are in order.
-/

namespace Feel.Proofs
open Timeline

/-- Clocks show the local time at the instant, both in seconds since the start of 1970. -/
def Shows (t : Timeline) (shown instant : ℤ) : Prop := instant + (t.offsetAt instant).seconds = shown

/-- The instant is the first one at which clocks show the local time. -/
def IsFirstShowing (t : Timeline) (shown instant : ℤ) : Prop :=
  Shows t shown instant ∧ ∀ earlier < instant, ¬ Shows t shown earlier

lemma IsFirstShowing.unique {t : Timeline} {shown i j : ℤ} (hi : IsFirstShowing t shown i)
    (hj : IsFirstShowing t shown j) : i = j := by
  by_contra hne
  obtain hlt | hlt := lt_or_gt_of_ne hne
  · exact hj.2 i hlt hi.1
  · exact hi.2 j hlt hj.1

/-! ### Periods -/

lemma offsetFrom_of_lt {instant start : ℤ} (h : instant < start) (current next : Offset)
    (later : List (ℤ × Offset)) : offsetFrom current instant ((start, next) :: later) = current := by
  rw [offsetFrom, if_pos h]

lemma offsetFrom_of_ge {instant start : ℤ} (h : start ≤ instant) (current next : Offset)
    (later : List (ℤ × Offset)) :
    offsetFrom current instant ((start, next) :: later) = offsetFrom next instant later := by
  rw [offsetFrom, if_neg (not_lt.mpr h)]

/-- The instant is in the given period or in a later one. -/
def IsSince (start : Option ℤ) (instant : ℤ) : Prop := ∀ s ∈ start, s ≤ instant

lemma all_le_iff {start : Option ℤ} {instant : ℤ} :
    start.all (· ≤ instant) = true ↔ IsSince start instant := by
  cases start <;> simp [IsSince]

/-- What the search finds is an instant that shows the local time, and no earlier one does. -/
lemma showingFrom?_eq_some {start : Option ℤ} {s : ℤ} {current o : Offset} {shown : ℤ}
    {changes : List (ℤ × Offset)} (hfollow : Follow s changes) (hs : IsSince start s)
    (h : showingFrom? start current shown changes = some o) :
    IsSince start (shown - o.seconds) ∧ offsetFrom current (shown - o.seconds) changes = o ∧
      ∀ j < shown - o.seconds, IsSince start j → j + (offsetFrom current j changes).seconds ≠ shown := by
  induction changes generalizing start s current with
  | nil =>
    unfold showingFrom? at h
    split_ifs at h with hsince
    obtain rfl := Option.some.inj h
    refine ⟨all_le_iff.mp hsince, rfl, fun j hj _ => ?_⟩
    unfold offsetFrom
    omega
  | cons change later ih =>
    obtain ⟨stop, next⟩ := change
    obtain ⟨hstop, hlater⟩ := hfollow
    rw [showingFrom?] at h
    split_ifs at h with hin
    · -- The current period shows the local time.
      obtain rfl := Option.some.inj h
      refine ⟨all_le_iff.mp hin.1, offsetFrom_of_lt hin.2 _ _ _, fun j hj _ => ?_⟩
      rw [offsetFrom_of_lt (hj.trans hin.2)]
      omega
    · obtain ⟨hsince, hoffset, hfirst⟩ := ih hlater (by simp [IsSince]) h
      have hge : stop ≤ shown - o.seconds := hsince stop rfl
      refine ⟨fun b hb => ?_, ?_, fun j hj hj' => ?_⟩
      · have hle := hs b hb
        omega
      · rwa [offsetFrom_of_ge hge]
      · by_cases hlt : j < stop
        · rw [offsetFrom_of_lt hlt]
          intro hshow
          have hinstant : j = shown - current.seconds := by omega
          subst hinstant
          exact hin ⟨all_le_iff.mpr hj', hlt⟩
        · rw [offsetFrom_of_ge (not_lt.mp hlt)]
          exact hfirst j hj (by simpa [IsSince] using not_lt.mp hlt)

lemma showingFrom?_eq_none {start : Option ℤ} {current : Offset} {shown : ℤ}
    {changes : List (ℤ × Offset)} (h : showingFrom? start current shown changes = none) :
    ∀ j, IsSince start j → j + (offsetFrom current j changes).seconds ≠ shown := by
  induction changes generalizing start current with
  | nil =>
    intro j hj hshow
    unfold offsetFrom at hshow
    have hinstant : j = shown - current.seconds := by omega
    subst hinstant
    rw [showingFrom?, if_pos (all_le_iff.mpr hj)] at h
    exact Option.some_ne_none _ h
  | cons change later ih =>
    obtain ⟨stop, next⟩ := change
    rw [showingFrom?] at h
    split_ifs at h with hin
    intro j hj
    by_cases hlt : j < stop
    · rw [offsetFrom_of_lt hlt]
      intro hshow
      have hinstant : j = shown - current.seconds := by omega
      subst hinstant
      exact hin ⟨all_le_iff.mpr hj, hlt⟩
    · rw [offsetFrom_of_ge (not_lt.mp hlt)]
      exact ih h j (by simpa [IsSince] using not_lt.mp hlt)

lemma isFirstShowing_of_showing? {t : Timeline} {shown : ℤ} {o : Offset}
    (h : t.showing? shown = some o) :
    IsFirstShowing t shown (shown - o.seconds) ∧ t.offsetAt (shown - o.seconds) = o := by
  obtain ⟨-, hoffset, hfirst⟩ := showingFrom?_eq_some t.follow (by simp [IsSince]) h
  refine ⟨⟨?_, fun j hj => hfirst j hj (by simp [IsSince])⟩, hoffset⟩
  rw [Shows, Timeline.offsetAt, hoffset]
  omega

/-- The search finds the offset at the first instant that shows the local time. -/
theorem showing?_eq_some_iff {t : Timeline} {shown : ℤ} {o : Offset} :
    t.showing? shown = some o ↔ ∃ i, IsFirstShowing t shown i ∧ t.offsetAt i = o := by
  constructor
  · intro h
    exact ⟨_, isFirstShowing_of_showing? h⟩
  · rintro ⟨i, hi, rfl⟩
    cases hfound : t.showing? shown with
    | none => exact absurd hi.1 (showingFrom?_eq_none hfound i (by simp [IsSince]))
    | some o =>
      obtain ⟨hfirst, hoffset⟩ := isFirstShowing_of_showing? hfound
      rw [hi.unique hfirst, hoffset]

lemma exists_isFirstShowing {t : Timeline} {shown i : ℤ} (h : Shows t shown i) :
    ∃ j ≤ i, IsFirstShowing t shown j := by
  cases hfound : t.showing? shown with
  | none => exact absurd h (showingFrom?_eq_none hfound i (by simp [IsSince]))
  | some o =>
    have hfirst := (isFirstShowing_of_showing? hfound).1
    refine ⟨_, ?_, hfirst⟩
    by_contra hlt
    exact hfirst.2 i (not_le.mp hlt) h

/-! ### The calendar's first days -/

lemma offsetAt_of_le_dawn (t : Timeline) {instant : ℤ} (h : instant ≤ dawn) :
    t.offsetAt instant = t.initial := by
  have hfollow := t.follow
  unfold Timeline.offsetAt
  match hchanges : t.changes, hfollow with
  | [], _ => rfl
  | (start, next) :: later, hfollow =>
    exact offsetFrom_of_lt (h.trans_lt hfollow.1) _ _ _

/-- Only clocks after the calendar's first two days show a local time again, and within two days. -/
lemma dawn_lt_add_of_shows {t : Timeline} {shown i j : ℤ} (hi : Shows t shown i)
    (hj : Shows t shown j) (h : i < j) : dawn < i + 2 * secondsPerDay := by
  have hlater : dawn < j := by
    by_contra hle
    rw [Shows, offsetAt_of_le_dawn t (by omega)] at hi hj
    omega
  have hboundI := (t.offsetAt i).bounded
  have hboundJ := (t.offsetAt j).bounded
  unfold Shows at hi hj
  omega

end Feel.Proofs
