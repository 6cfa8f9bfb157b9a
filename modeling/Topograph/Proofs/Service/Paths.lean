import Topograph.Proofs.Address.Appended
import Topograph.Proofs.Number.IntegerText
import Topograph.Service.Store

/-!
# The paths of a store

A snippet is named in a path by the text of its key, which is a sign and digits. Such a path stands
in an address as it is.
-/
namespace Topograph.Store
open Number

/-- The path of all snippets. -/
def listPath : String := "/snippets"

/-- The path of one snippet. -/
def snippetPath (id : Int) : String := "/snippets/" ++ integerText id

/-- The length of the longest path: a snippet under a negative key with as many digits as a key may
have. -/
def longestPath : Nat := "/snippets/-".length + digitLimit

theorem isPathChar_of_isDigit {c : Char} (h : Numeral.isDigit c = true) :
    Address.isPathChar c = true := by
  have others : ("\"#<>?`\x7b\x7d".toList.all fun c => !Numeral.isDigit c) = true := by decide
  have apart : "\"#<>?`\x7b\x7d".toList.contains c = false := by
    rw [List.contains_eq_mem, decide_eq_false_iff_not]
    intro hc
    simpa [h] using List.all_eq_true.mp others c hc
  simp only [Numeral.isDigit, Bool.and_eq_true, decide_eq_true_eq] at h
  simp only [Address.isPathChar, Address.isPrintableBut, apart, Bool.not_false, Bool.and_true,
    Bool.and_eq_true, decide_eq_true_eq]
  omega

theorem isPathChar_integerText (n : Int) :
    (integerText n).toList.all Address.isPathChar = true := by
  rw [List.all_eq_true]
  intro c hc
  rcases sign_or_digit hc with rfl | digit
  · decide
  · exact isPathChar_of_isDigit digit

/-- The text of a key is no dot segment and holds no slash. -/
theorem not_mem_integerText {n : Int} {c : Char} (h : c = '/' ∨ c = '.') :
    c ∉ (integerText n).toList := by
  intro hc
  rcases sign_or_digit hc with rfl | digit
  · exact absurd h (by decide)
  · rcases h with rfl | rfl <;> exact absurd digit (by decide)

theorem splitOn_integerText (n : Int) :
    (integerText n).toList.splitOn '/' = [(integerText n).toList] := by
  apply List.splitOnP_eq_singleton
  intro c hc
  rw [beq_eq_false_iff_ne]
  rintro rfl
  exact not_mem_integerText (.inl rfl) hc

theorem splitOn_snippetPath (id : Int) : (snippetPath id).toList.splitOn '/' =
    [[], "snippets".toList, (integerText id).toList] := by
  have path : (snippetPath id).toList = "/snippets".toList ++ '/' :: (integerText id).toList := by
    simp [snippetPath]
  rw [path, Address.splitOn_append, splitOn_integerText]
  rfl

theorem isPlainSegment_integerText (n : Int) :
    Address.IsPlainSegment (integerText n).toList := by
  constructor <;> intro dots
  · exact not_mem_integerText (.inr rfl) (by rw [dots]; simp)
  · exact not_mem_integerText (.inr rfl) (by rw [dots]; simp)

theorem isPlainPath_listPath : Address.IsPlainPath listPath.toList where
  rooted := by decide
  plain := by decide
  safe := by decide

theorem isPlainPath_snippetPath (id : Int) : Address.IsPlainPath (snippetPath id).toList where
  rooted := by simp [snippetPath]
  plain := by
    have name : (snippetPath id).toList.tail =
        "snippets".toList ++ '/' :: (integerText id).toList := by
      simp [snippetPath]
    rw [name, Address.splitOn_append, splitOn_integerText]
    intro s hs
    rcases List.mem_append.mp hs with fixed | key
    · have plain : ∀ s ∈ "snippets".toList.splitOn '/', Address.IsPlainSegment s := by decide
      exact plain s fixed
    · rw [List.mem_singleton.mp key]
      exact isPlainSegment_integerText id
  safe := by
    rw [snippetPath, String.toList_append, List.all_append, isPathChar_integerText]
    decide

theorem length_snippetPath {id : Int} (h : IsWritable id) :
    (snippetPath id).length ≤ longestPath := by
  have digits := length_digits_of_isWritable h
  have text : (integerText id).length = (if id < 0 then ['-'] else []).length +
      (Numeral.digits id.natAbs).length := by
    rw [← String.length_toList, toList_integerText, List.length_append]
  have sign : (if id < 0 then ['-'] else []).length ≤ 1 := by
    split <;> simp
  rw [snippetPath, String.length_append, text, longestPath]
  have path : "/snippets/-".length = "/snippets/".length + 1 := by decide
  omega

theorem deleteRequest_eq (c : Client) {id : Int} (h : IsWritable id) :
    deleteRequest c id = c.request .delete (snippetPath id) .none := by
  unfold deleteRequest Failure.integerText
  rw [integerText?_of_isWritable h]
  rfl

end Topograph.Store
