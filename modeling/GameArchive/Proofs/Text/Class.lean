import GameArchive.Text.Class

/-!
# Disjoint classes

No blank character is a word character, so a gap between two words never belongs to one of them.
-/

namespace GameArchive
namespace CodePoint

/-- The numbers of the blank characters. -/
def blankNumbers : List Nat := [
  0x09, 0x0a, 0x0b, 0x0c, 0x0d, 0x1c, 0x1d, 0x1e, 0x1f, 0x20, 0x85, 0xa0, 0x1680, 0x2000, 0x2001,
  0x2002, 0x2003, 0x2004, 0x2005, 0x2006, 0x2007, 0x2008, 0x2009, 0x200a, 0x2028, 0x2029, 0x202f,
  0x205f, 0x3000]

theorem mem_blankNumbers {c : CodePoint} (h : c.isBlank = true) : c.val ∈ blankNumbers := by
  simp only [isBlank, Bool.or_eq_true, Bool.and_eq_true, decide_eq_true_eq] at h
  simp only [blankNumbers, List.mem_cons, List.not_mem_nil, or_false]
  omega

theorem isWord_of_isBlank {c : CodePoint} (h : c.isBlank = true) : c.isWord = false := by
  have hall : ∀ n ∈ blankNumbers, (ofNat n).isWord = false := by decide +kernel
  have hc := hall c.val (mem_blankNumbers h)
  rwa [ofNat_val] at hc

end CodePoint
end GameArchive
