import PeerCheck.Log.Timestamp

/-!
# Times that have a written form

These are the times from the first second of the year 1 to the last of the year 9999
(`exists_timestamp_iff`).
-/

namespace PeerCheck.Log

open PeerCheck.Number PeerCheck.Text

/-- The days whose year has a written form, counted from 1970. -/
theorem year_civilDate_iff (day : Int) :
    (1 ≤ (civilDate day).1 ∧ (civilDate day).1 ≤ 9999) ↔ -719162 ≤ day ∧ day ≤ 2932896 := by
  unfold civilDate epochDays
  dsimp only
  rw [Int.fdiv_eq_ediv_of_nonneg _ (by decide), Int.fmod_eq_emod_of_nonneg _ (by decide)]
  generalize hdoe : ((day + 719468) % 146097).toNat = doe
  generalize hera : (day + 719468) / 146097 = era
  have hday : era * 146097 + doe = day + 719468 := by omega
  have hdoe' : doe < 146097 := by omega
  clear hdoe hera
  generalize hy : (doe - doe / 1460 + doe / 36524 - doe / 146096) / 365 = y
  have hy' : y ≤ 399 := by omega
  generalize hs : (5 * (doe - (365 * y + y / 4 - y / 100)) + 2) / 153 = s
  -- the first year of the era of year 0 ends, and the last before year 10000 has its end, here
  have hfirst : y = 0 → (10 ≤ s ↔ 306 ≤ doe) ∧ s ≤ 11 := by omega
  have hlast : y = 399 → (s ≤ 9 ↔ doe ≤ 146036) ∧ s ≤ 11 := by omega
  have hbefore : doe < 306 → y = 0 := by omega
  have hafter : 146036 < doe → y = 399 := by omega
  clear hy hs
  by_cases hten : s < 10
  · rw [if_pos hten]
    split <;> omega
  · rw [if_neg hten]
    split <;> omega

def firstSecond : Int := -62135596800

def lastSecond : Int := 253402300799

theorem exists_secondText_iff (second : Int) :
    (∃ text, secondText second = .ok text) ↔ firstSecond ≤ second ∧ second ≤ lastSecond := by
  have hyear := year_civilDate_iff (second.fdiv 86400)
  have hday : (-719162 ≤ second.fdiv 86400 ∧ second.fdiv 86400 ≤ 2932896) ↔
      firstSecond ≤ second ∧ second ≤ lastSecond := by
    rw [Int.fdiv_eq_ediv_of_nonneg _ (by decide), firstSecond, lastSecond]
    omega
  rw [← hday, ← hyear]
  unfold secondText
  generalize civilDate (second.fdiv 86400) = date
  obtain ⟨year, month, day⟩ := date
  dsimp only
  split
  · next h => exact ⟨nofun, by omega⟩
  · split
    · next h => exact ⟨nofun, by omega⟩
    · next h => exact ⟨fun _ => by omega, fun _ => ⟨_, rfl⟩⟩

/-- A time within these years. -/
def IsDated : Binary64 → Prop
  | .finite negative units =>
    firstSecond ≤ wholeSecond negative units ∧ wholeSecond negative units ≤ lastSecond
  | _ => False

theorem exists_timestamp_iff (t : Binary64) : (∃ text, timestamp t = .ok text) ↔ IsDated t := by
  cases t with
  | nan => exact ⟨nofun, nofun⟩
  | infinite negative => exact ⟨nofun, nofun⟩
  | finite negative units =>
    unfold timestamp IsDated
    dsimp only
    split
    · next h =>
      refine ⟨nofun, ?_⟩
      rw [firstSecond, lastSecond]
      omega
    · exact exists_secondText_iff _

end PeerCheck.Log
