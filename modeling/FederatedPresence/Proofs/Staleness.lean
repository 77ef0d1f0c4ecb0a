import Mathlib.Order.Bounds.Basic
import FederatedPresence.Names.Staleness
import FederatedPresence.Settings.Basic

/-!
# When names are stale

Settings say for how many hours a name stays fresh. Three ranges meet there. The hours become seconds
and milliseconds, which are kept in a signed 64-bit word; a time span is a number of milliseconds of
that size; and what lies a time span back must be in the calendar, which is much smaller.

**Theorem (`accepted_hours_are_exact`).** Settings that are accepted give a time span, and no number
on the way to it leaves the word. With another number of hours they are accepted exactly when it is
positive and a time span; the greatest such number is `Settings.mostHours`. A visitor's name is then
stale when it is older than the hours, in integers without bounds, provided that the calendar goes
back so far.

So staleness is a threshold (`NameLifetime.isStale_iff`): a name that is stale stays so until it is
stamped again, and a name is fresh up to the last of its hours.
-/

namespace FederatedPresence

open Text

/-! ## Keys in bytes -/

theorem Text.byteLength_eq_utf8ByteSize (cs : List Char) :
    byteLength cs = (String.ofList cs).utf8ByteSize := by
  induction cs with
  | nil => simp
  | cons c cs ih =>
    have hsplit : String.ofList (c :: cs) = String.singleton c ++ String.ofList cs := by
      rw [String.singleton_eq_ofList, ← String.ofList_append, List.singleton_append]
    rw [byteLength_cons, ih, hsplit, String.utf8ByteSize_append, String.utf8ByteSize_singleton]

/-- A visitor's key is longer than a UUID. -/
theorem isFederated_iff {userId : String} :
    isFederated userId = true ↔ uuidLength < userId.utf8ByteSize := by
  rw [isFederated, decide_eq_true_iff, byteLength_eq_utf8ByteSize, String.ofList_toList]

/-! ## Hours as time spans -/

/-- **A number of hours is a time span up to the most hours that settings may say.** -/
theorem isTimeSpan_hours_iff {n : Int} :
    isTimeSpan (n * 3600) ↔ -Settings.mostHours ≤ n ∧ n ≤ Settings.mostHours := by
  unfold isTimeSpan mostSpan Settings.mostHours
  omega

namespace NameLifetime

theorem ofHours?_isSome_iff {n : Int} : (ofHours? n).isSome = true ↔ isTimeSpan (n * 3600) := by
  unfold ofHours?
  split
  · rename_i h
    exact ⟨fun _ => h, fun _ => rfl⟩
  · rename_i h
    exact ⟨fun hsome => absurd hsome (by simp), fun hspan => absurd hspan h⟩

/-- The most hours that settings may say are the most hours that there are. -/
theorem isGreatest_mostHours : IsGreatest {n | (ofHours? n).isSome = true} Settings.mostHours := by
  constructor
  · show (ofHours? Settings.mostHours).isSome = true
    rw [ofHours?_isSome_iff, isTimeSpan_hours_iff]
    decide
  · intro n hn
    exact (isTimeSpan_hours_iff.1 (ofHours?_isSome_iff.1 hn)).2

end NameLifetime

/-! ## Accepted settings -/

namespace Settings

theorem invalid?_eq_none_iff {s : Settings} : s.invalid? = none ↔
    (0 < s.cache.maxEntries ∧ 0 < s.cache.ttl ∧ 0 < s.cache.negativeTtl ∧
      0 < s.displayNames.requestTimeout) ∧
      0 < s.displayNames.expirationHours ∧ s.displayNames.expirationHours ≤ mostHours := by
  unfold invalid?
  split_ifs with hcapacity httl htimeout hhours
  · simp [hcapacity]
  · refine ⟨fun h => absurd h (by simp), fun h => ?_⟩
    omega
  · simp [htimeout]
  · refine ⟨fun h => absurd h (by simp), fun h => ?_⟩
    omega
  · refine ⟨fun _ => ?_, fun _ => rfl⟩
    omega

theorem validate_eq_ok_iff {s : Settings} : s.validate = .ok s ↔ s.invalid? = none := by
  unfold validate
  cases s.invalid? with
  | none => simp
  | some why => simp

/-- The settings with another number of hours for which a name stays fresh. -/
def withHours (s : Settings) (n : Int) : Settings :=
  { s with displayNames := { s.displayNames with expirationHours := n } }

@[simp] theorem expirationHours_withHours (s : Settings) (n : Int) :
    (s.withHours n).displayNames.expirationHours = n := rfl

/-- **What is accepted are the positive time spans.** -/
theorem validate_withHours_iff {s : Settings} (h : s.validate = .ok s) (n : Int) :
    (s.withHours n).validate = .ok (s.withHours n) ↔
      0 < n ∧ (NameLifetime.ofHours? n).isSome = true := by
  obtain ⟨hothers, -⟩ := invalid?_eq_none_iff.1 (validate_eq_ok_iff.1 h)
  have hleast : -mostHours ≤ 0 := by decide
  rw [validate_eq_ok_iff, invalid?_eq_none_iff, expirationHours_withHours,
    NameLifetime.ofHours?_isSome_iff, isTimeSpan_hours_iff]
  constructor
  · rintro ⟨-, hpos, hmost⟩
    exact ⟨hpos, by omega, hmost⟩
  · rintro ⟨hpos, -, hmost⟩
    exact ⟨hothers, hpos, hmost⟩

end Settings

/-! ## Staleness -/

namespace NameLifetime

variable {l : NameLifetime} {p : Presence} {now : Timestamp}

/-- **A name is stale when it is older than its hours**, in integers without bounds. -/
theorem isStale_iff (h : 0 ≤ l.hours) : l.isStale p now = true ↔
    uuidLength < p.userId.utf8ByteSize ∧
      Timestamp.first.seconds ≤ now.seconds - 3600 * l.hours ∧
      p.nameCached.seconds < now.seconds - 3600 * l.hours := by
  have hfirst : Timestamp.first.seconds = -8334601228800 := rfl
  have hlast := now.le_last
  rw [isStale, Bool.and_eq_true, isFederated_iff]
  refine and_congr_right fun _ => ?_
  -- no time span leads behind the end of the calendar, so only its beginning may be missed
  by_cases hrange : Timestamp.first.seconds ≤ now.seconds - 3600 * l.hours
  · have hcutoff : l.cutoff? now = some ⟨now.seconds - l.hours * 3600, by omega, by omega⟩ :=
      dif_pos ⟨by omega, by omega⟩
    rw [hcutoff, decide_eq_true_iff]
    show p.nameCached.seconds < now.seconds - l.hours * 3600 ↔ _
    rw [Int.mul_comm]
    exact ⟨fun hold => ⟨hrange, hold⟩, fun hstale => hstale.2⟩
  · have hcutoff : l.cutoff? now = none := dif_neg fun hfound => by omega
    rw [hcutoff]
    exact ⟨fun hfalse => absurd hfalse (by simp), fun hstale => absurd hstale.1 hrange⟩

/-- **A name stays stale**, whatever else changes about the visitor. -/
theorem isStale_of_isStale (h : 0 ≤ l.hours) {p' : Presence} {now' : Timestamp}
    (huser : p'.userId = p.userId) (hcached : p'.nameCached = p.nameCached)
    (hnow : now.seconds ≤ now'.seconds) (hstale : l.isStale p now = true) :
    l.isStale p' now' = true := by
  rw [isStale_iff h] at hstale ⊢
  obtain ⟨hkey, hfirst, hold⟩ := hstale
  rw [huser, hcached]
  exact ⟨hkey, by omega, by omega⟩

/-- **A name is fresh up to the last of its hours.** -/
theorem not_isStale_of_le (h : 0 ≤ l.hours)
    (hnow : now.seconds ≤ p.nameCached.seconds + 3600 * l.hours) : l.isStale p now = false := by
  rw [Bool.eq_false_iff]
  intro hstale
  obtain ⟨-, -, hold⟩ := (isStale_iff h).1 hstale
  omega

end NameLifetime

/-- **Accepted settings give a time span, and staleness is exact.** Of other numbers of hours, the
positive ones that are time spans would have been accepted as well, and no more. -/
theorem accepted_hours_are_exact {s : Settings} (h : s.validate = .ok s) :
    let hours := s.displayNames.expirationHours
    (∀ n, (s.withHours n).validate = .ok (s.withHours n) ↔
        0 < n ∧ (NameLifetime.ofHours? n).isSome = true) ∧
      IsGreatest {n | (NameLifetime.ofHours? n).isSome = true} Settings.mostHours ∧
      isInt64 (hours * 3600) = true ∧ isInt64 (hours * 3600 * 1000) = true ∧
      ∃ l, NameLifetime.ofHours? hours = some l ∧ l.hours = hours ∧
        (∀ p now, l.isStale p now = true ↔ uuidLength < p.userId.utf8ByteSize ∧
          Timestamp.first.seconds ≤ now.seconds - 3600 * hours ∧
          p.nameCached.seconds < now.seconds - 3600 * hours) ∧
        (∀ (p p' : Presence) (now now' : Timestamp), p'.userId = p.userId →
          p'.nameCached = p.nameCached → now.seconds ≤ now'.seconds →
          l.isStale p now = true → l.isStale p' now' = true) ∧
        ∀ p now, now.seconds ≤ p.nameCached.seconds + 3600 * hours → l.isStale p now = false := by
  intro hours
  obtain ⟨-, hpos, hmost⟩ := Settings.invalid?_eq_none_iff.1 (Settings.validate_eq_ok_iff.1 h)
  have hleast : -Settings.mostHours ≤ 0 := by decide
  have hspan : isTimeSpan (hours * 3600) := isTimeSpan_hours_iff.2 ⟨by omega, hmost⟩
  have hwords : isInt64 (hours * 3600) = true ∧ isInt64 (hours * 3600 * 1000) = true := by
    obtain ⟨hlow, hhigh⟩ := hspan
    unfold mostSpan at hlow hhigh
    refine ⟨decide_eq_true ?_, decide_eq_true ?_⟩
    · unfold leastInt64 mostInt64
      omega
    · unfold leastInt64 mostInt64
      omega
  refine ⟨Settings.validate_withHours_iff h, NameLifetime.isGreatest_mostHours, hwords.1, hwords.2,
    ⟨hours, hspan⟩, ?_, rfl, ?_, ?_, ?_⟩
  · exact dif_pos hspan
  · intro p now
    exact NameLifetime.isStale_iff (Int.le_of_lt hpos)
  · intro p p' now now' huser hcached hnow hstale
    exact NameLifetime.isStale_of_isStale (Int.le_of_lt hpos) huser hcached hnow hstale
  · intro p now hnow
    exact NameLifetime.not_isStale_of_le (Int.le_of_lt hpos) hnow

/-- The longest lifetime is accepted. It reaches behind the beginning of the calendar from every
present, so that no name is ever stale. -/
theorem accepted_hours_are_exact_longest :
    let s : Settings := ⟨⟨"127.0.0.1", 8003⟩, ⟨"data/gridpresence.db"⟩, ⟨300, 300, 10000, 60⟩,
      ⟨true, 2562047788015, 5⟩, ⟨"info", "pretty"⟩⟩
    s.validate = .ok s ∧ s.displayNames.expirationHours = Settings.mostHours ∧
      ∃ l, NameLifetime.ofHours? Settings.mostHours = some l ∧
        ∀ (p : Presence) (now : Timestamp), l.isStale p now = false := by
  intro s
  have h : s.validate = .ok s := by decide
  obtain ⟨-, -, -, -, l, hl, -, hstale, -, -⟩ := accepted_hours_are_exact h
  refine ⟨h, by decide, l, hl, fun p now => ?_⟩
  rw [Bool.eq_false_iff, ne_eq, hstale]
  have hfirst : Timestamp.first.seconds = -8334601228800 := rfl
  have hhours : s.displayNames.expirationHours = 2562047788015 := rfl
  have hlast := now.le_last
  omega

/-- A name for twelve hours is fresh in the last second of them, and stale in the next one. -/
example :
    let l : NameLifetime := ⟨12, by decide⟩
    let p : Presence := .new "11111111-1111-1111-1111-111111111111@grid.example.org"
    let stamped (n : Int) : Timestamp := (Timestamp.ofSeconds? n).getD .epoch
    l.isStale { p with nameCached := stamped 1700000000 } (stamped 1700043200) = false ∧
      l.isStale { p with nameCached := stamped 1700000000 } (stamped 1700043201) = true := by
  decide +kernel

end FederatedPresence
