/-
  TokenThrottle.Theory.Joined

  Texts joined by a separator that none of them contains: the joined text says what was
  joined, and texts that begin alike compare as what follows.
-/
import Mathlib.Data.String.Basic

namespace TokenThrottle.Theory.Joined

variable {separator : Char} {texts texts' : List String}

/-- No text contains the separator. -/
def Free (separator : Char) (texts : List String) : Prop :=
  ∀ text ∈ texts, separator ∉ text.toList

theorem Free.cons {text : String} (h_text : separator ∉ text.toList)
    (h_texts : Free separator texts) : Free separator (text :: texts) := by
  intro text' h_mem
  rcases List.mem_cons.mp h_mem with rfl | h_mem
  · exact h_text
  · exact h_texts text' h_mem

theorem free_nil : Free separator [] := by
  intro text h_mem
  cases h_mem

/-- The joined text, split again. -/
theorem splitOn_joined (h_free : Free separator texts) (h_some : texts ≠ []) :
    ((String.singleton separator).intercalate texts).toList.splitOn separator =
      texts.map String.toList := by
  rw [String.toList_intercalate, String.toList_singleton]
  apply List.splitOn_intercalate
  · intro chars h_mem
    obtain ⟨text, h_text, rfl⟩ := List.mem_map.mp h_mem
    exact h_free text h_text
  · intro h_nil
    exact h_some (List.map_eq_nil_iff.mp h_nil)

theorem joined_injective (h_free : Free separator texts) (h_free' : Free separator texts')
    (h_some : texts ≠ []) (h_some' : texts' ≠ [])
    (h_joined : (String.singleton separator).intercalate texts =
      (String.singleton separator).intercalate texts') : texts = texts' := by
  have h_split := splitOn_joined h_free h_some
  rw [h_joined, splitOn_joined h_free' h_some'] at h_split
  have h_injective : Function.Injective String.toList := fun _ _ h_eq => String.toList_inj.mp h_eq
  exact (List.map_injective_iff.mpr h_injective h_split).symm

end TokenThrottle.Theory.Joined
