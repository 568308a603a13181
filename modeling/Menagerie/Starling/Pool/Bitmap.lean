import Menagerie.Library.BitWord
import Menagerie.Starling.Pool.Effect
import Mathlib.Algebra.BigOperators.Group.Finset.Basic

/-!
# The idle bitmap

`words_` read as a set of slots: what the atomic operations of `claim_idle`, `publish_bit`,
`reclaim_idle` and the sweep of `shutdown` add and remove, and what `idle_count` counts.
-/

namespace Menagerie.Starling.Pool.State

variable (s : State) (thread : Nat)

theorem idle_setWord (word : Nat) (bits : BitVec 64) (index : Nat) :
    (s.setWord word bits).idle index =
      if index / bitsPerWord = word then bits.getLsbD (index % bitsPerWord)
      else s.idle index := by
  by_cases same : index / bitsPerWord = word
  · simp [idle, setWord, same]
  · simp [idle, setWord, same]

theorem eq_of_bit (word index : Nat) {bit : Nat} (small : bit < bitsPerWord) :
    index = word * bitsPerWord + bit ↔
      index / bitsPerWord = word ∧ index % bitsPerWord = bit := by
  unfold bitsPerWord at *
  omega

theorem eq_of_word (index other : Nat) : other = index ↔
    other / bitsPerWord = index / bitsPerWord ∧ other % bitsPerWord = index % bitsPerWord := by
  unfold bitsPerWord
  omega

theorem idle_lowest {word : Nat} (nonzero : s.words word ≠ 0) : s.idle (s.lowest word) = true := by
  have small : (s.words word).ctz.toNat < bitsPerWord := BitWord.lowest_lt _ nonzero
  obtain ⟨here, bit⟩ := (eq_of_bit word (s.lowest word) small).mp rfl
  rw [idle, here, bit]
  exact BitVec.getLsbD_true_ctz_of_ne_zero nonzero

theorem idle_claim {word : Nat} (nonzero : s.words word ≠ 0) (index : Nat) :
    (s.apply thread (.claim word)).idle index = true ↔
      s.idle index = true ∧ index ≠ s.lowest word := by
  have small : (s.words word).ctz.toNat < bitsPerWord := BitWord.lowest_lt _ nonzero
  have named : index ≠ s.lowest word ↔
      (index / bitsPerWord = word → index % bitsPerWord ≠ (s.words word).ctz.toNat) := by
    rw [ne_eq, lowest, eq_of_bit word index small, not_and]
  rw [apply, idle_setWord, named]
  by_cases same : index / bitsPerWord = word
  · have cleared := BitWord.getLsbD_clear_lowest (s.words word) nonzero (index % bitsPerWord)
    rw [if_pos same, show (1 : BitVec 64) = BitVec.ofNat 64 1 from rfl, cleared]
    simp [idle, same]
  · rw [if_neg same]
    simp [same, idle, setSlot]

theorem idle_publish (published index : Nat) :
    (s.apply thread (.publish published)).idle index = true ↔
      s.idle index = true ∨ index = published := by
  have small : index % bitsPerWord < 64 := Nat.mod_lt index (by decide)
  rw [apply, idle_setWord, eq_of_word published index]
  by_cases same : index / bitsPerWord = published / bitsPerWord
  · rw [if_pos same, BitWord.getLsbD_insert]
    simp [idle, same, small]
  · rw [if_neg same]
    simp [same, idle, setSlot]

theorem idle_reclaim (reclaimed index : Nat) :
    (s.apply thread (.reclaim reclaimed)).idle index = true ↔
      s.idle index = true ∧ index ≠ reclaimed := by
  rw [apply, idle_setWord, ne_eq, eq_of_word reclaimed index, not_and]
  by_cases same : index / bitsPerWord = reclaimed / bitsPerWord
  · rw [if_pos same, BitWord.getLsbD_remove]
    simp [idle, same]
  · rw [if_neg same]
    simp [same, idle, setSlot]

theorem idle_sweep (word index : Nat) :
    (s.apply thread (.sweep word)).idle index = true ↔
      s.idle index = true ∧ index / bitsPerWord ≠ word := by
  by_cases same : index / bitsPerWord = word
  · simp [apply, idle, setWord, same]
  · simp [apply, idle, setWord, same]

theorem mem_sweptSlots (word index : Nat) :
    index ∈ s.sweptSlots word ↔ s.idle index = true ∧ index / bitsPerWord = word := by
  simp only [sweptSlots, List.mem_map, List.mem_filter, List.mem_range]
  constructor
  · rintro ⟨bit, ⟨small, set⟩, rfl⟩
    obtain ⟨here, low⟩ := (eq_of_bit word (word * bitsPerWord + bit) small).mp rfl
    exact ⟨by rw [idle, here, low]; exact set, here⟩
  · rintro ⟨set, rfl⟩
    refine ⟨index % bitsPerWord, ⟨Nat.mod_lt index (by decide), set⟩, ?_⟩
    exact Nat.div_add_mod' index bitsPerWord

theorem nodup_sweptSlots (word : Nat) : (s.sweptSlots word).Nodup := by
  refine List.Nodup.map ?_ (List.nodup_range.filter _)
  intro left right same
  exact Nat.add_left_cancel same

theorem card_word (word : Nat) {bound : Nat}
    (inside : ∀ index, s.idle index = true → index < bound) :
    (((Finset.range bound).filter (fun index => s.idle index = true)).filter
        (fun index => index / bitsPerWord = word)).card =
      (s.words word).cpopNatRec 64 0 := by
  have placed := Finset.card_image_of_injective
    ((Finset.range 64).filter (fun bit => (s.words word).getLsbD bit = true))
    (add_right_injective (word * bitsPerWord))
  rw [BitWord.cpopNatRec_eq_card, ← placed]
  congr 1
  ext index
  simp only [Finset.mem_filter, Finset.mem_range, Finset.mem_image]
  constructor
  · rintro ⟨⟨-, set⟩, rfl⟩
    exact ⟨index % bitsPerWord, ⟨Nat.mod_lt index (by decide), set⟩,
      Nat.div_add_mod' index bitsPerWord⟩
  · rintro ⟨bit, ⟨small, set⟩, rfl⟩
    obtain ⟨here, low⟩ := (eq_of_bit word (word * bitsPerWord + bit) small).mp rfl
    have idle : s.idle (word * bitsPerWord + bit) = true := by
      rw [State.idle, here, low]
      exact set
    exact ⟨⟨inside _ idle, idle⟩, here⟩

theorem idleCount_eq {bound : Nat} (inside : ∀ index, s.idle index = true → index < bound)
    (covered : bound ≤ s.wordCount * bitsPerWord) :
    s.idleCount = ((Finset.range bound).filter (fun index => s.idle index = true)).card := by
  have total : s.idleCount =
      ∑ word ∈ Finset.range s.wordCount, (s.words word).cpopNatRec 64 0 := rfl
  rw [total, Finset.card_eq_sum_card_fiberwise (f := (· / bitsPerWord))
    (t := Finset.range s.wordCount)]
  · exact Finset.sum_congr rfl (fun word _ => (s.card_word word inside).symm)
  · intro index member
    have small : index < bound := Finset.mem_range.mp (Finset.mem_filter.mp member).1
    simp only [Finset.coe_range, Set.mem_Iio]
    exact Nat.div_lt_of_lt_mul (by rw [Nat.mul_comm]; omega)

theorem capacity_le_words : s.capacity ≤ s.wordCount * bitsPerWord := by
  unfold wordCount bitsPerWord
  split <;> omega

end Menagerie.Starling.Pool.State
