import P4Tas.Controller.RangeCover
import P4Tas.Lib.MinimalCover

/-!
# No shorter decomposition

* `rangeToTernaryEntries_minimal`: both loops of the controller emit no more entries for a range
  than any set of aligned blocks with these keys has blocks, and never more than 62.
-/

namespace P4Tas.Controller

open TernaryCover

/-- No set of aligned blocks with exactly the keys of `[start, last]` has fewer blocks. -/
def Minimal (start last : U32) (count : Nat) : Prop :=
  ∀ cover : Finset Block, Covers start.toNat (last.toNat + 1) cover → count ≤ cover.card

theorem ternaryBlocks_minimal {start last : U32} (le : start.toNat ≤ last.toNat)
    {es : List (U32 × U32)} (run : ternaryBlocks start last = .ok es) :
    Minimal start last es.length := by
  rcases ternaryBlocks_greedy le run with ⟨bs, greedy, entries⟩
  intro cover covers
  rw [entries.length_eq]
  exact greedy.length_le_card covers

theorem ternaryBlocks_length_le {start last : U32} (le : start.toNat ≤ last.toNat)
    (below : last.toNat < 2 ^ 32 - 1) {es : List (U32 × U32)}
    (run : ternaryBlocks start last = .ok es) : es.length ≤ 62 := by
  rcases ternaryBlocks_greedy le run with ⟨bs, greedy, entries⟩
  rw [entries.length_eq]
  exact greedy.length_le (w := 32) (by omega) (by decide)

/-- Both loops of the controller emit a smallest cover of a range that ends below `u32::MAX`, of at
most 62 entries. -/
theorem rangeToTernaryEntries_minimal {start last : U32} (le : start ≤ last)
    (below : last.toNat < 2 ^ 32 - 1) (pipeId qId batchId : U8) (action : Action) (afcValue : U32)
    (streamGateId : U32) (gateState ipv : U8) (intervalIdentifier maxOctetsInterval : U32) :
    (∃ requests, TAS.rangeToTernaryEntries start last pipeId qId batchId action afcValue =
        .ok requests ∧ Minimal start last requests.length ∧ requests.length ≤ 62) ∧
      ∃ requests, StreamGateControlList.rangeToTernaryEntries streamGateId start last gateState ipv
          intervalIdentifier maxOctetsInterval = .ok requests ∧
        Minimal start last requests.length ∧ requests.length ≤ 62 := by
  rcases (ternaryBlocks_returns below : ∃ es, ternaryBlocks start last = .ok es) with ⟨es, run⟩
  have minimal := ternaryBlocks_minimal le run
  have few := ternaryBlocks_length_le le below run
  refine ⟨⟨es.map (TAS.gateControlRequest pipeId qId batchId action afcValue), ?_, ?_⟩,
    es.map (StreamGateControlList.streamGateRequest streamGateId gateState ipv intervalIdentifier
      maxOctetsInterval), ?_, ?_⟩
  · unfold TAS.rangeToTernaryEntries
    rw [run]
    rfl
  · rw [List.length_map]
    exact ⟨minimal, few⟩
  · unfold StreamGateControlList.rangeToTernaryEntries
    rw [run]
    rfl
  · rw [List.length_map]
    exact ⟨minimal, few⟩

/-- The longest decomposition. -/
theorem rangeToTernaryEntries_minimal_sample :
    (∃ requests, TAS.rangeToTernaryEntries 1 0xFFFFFFFE 1 3 0 .openQueue 0 =
        .ok requests ∧ Minimal 1 0xFFFFFFFE requests.length ∧ requests.length ≤ 62) ∧
      ∃ requests, StreamGateControlList.rangeToTernaryEntries 1 1 0xFFFFFFFE 1 0 0 100 =
          .ok requests ∧
        Minimal 1 0xFFFFFFFE requests.length ∧ requests.length ≤ 62 :=
  rangeToTernaryEntries_minimal (by decide) (by decide) 1 3 0 .openQueue 0 1 1 0 0 100

end P4Tas.Controller
