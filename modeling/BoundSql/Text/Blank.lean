/-!
# Blank characters

Text taken from callers is compared after the blanks around it are removed. The class is the one
of Unicode white space together with the four information separators; zero-width characters are
not in it.
-/

namespace BoundSql.Text

/-- The code points that count as blank. -/
def blankCodes : List Nat :=
  [0x09, 0x0A, 0x0B, 0x0C, 0x0D, 0x1C, 0x1D, 0x1E, 0x1F, 0x20, 0x85, 0xA0, 0x1680,
   0x2000, 0x2001, 0x2002, 0x2003, 0x2004, 0x2005, 0x2006, 0x2007, 0x2008, 0x2009, 0x200A,
   0x2028, 0x2029, 0x202F, 0x205F, 0x3000]

/-- Whether a character is blank. -/
def isBlank (c : Char) : Bool := blankCodes.contains c.toNat

/-- The characters without the blanks at either end. -/
def trimChars (drop : Char → Bool) (cs : List Char) : List Char :=
  ((cs.dropWhile drop).reverse.dropWhile drop).reverse

/-- A text without the blanks at either end. -/
def trim (s : String) : String := String.ofList (trimChars isBlank s.toList)

/-- A text without the leading occurrences of one character. -/
def dropLeading (c : Char) (s : String) : String := String.ofList (s.toList.dropWhile (· == c))

/-- A text stands in another between blanks only, and neither starts nor ends with one. -/
def Trimmed (s kept : String) : Prop :=
  ∃ front back, s.toList = front ++ (kept.toList ++ back) ∧
    (∀ c ∈ front, isBlank c = true) ∧ (∀ c ∈ back, isBlank c = true) ∧
    (∀ c, kept.toList.head? = some c → isBlank c = false) ∧
    ∀ c, kept.toList.getLast? = some c → isBlank c = false

/-- A front part that is dropped whole, and what stands behind it. -/
theorem exists_dropWhile (drop : Char → Bool) (cs : List Char) :
    ∃ front, cs = front ++ cs.dropWhile drop ∧ (∀ c ∈ front, drop c = true) ∧
      ∀ c, (cs.dropWhile drop).head? = some c → drop c = false := by
  refine ⟨cs.takeWhile drop, List.takeWhile_append_dropWhile.symm,
    List.all_eq_true.mp List.all_takeWhile, fun c hc => ?_⟩
  have hhead := List.head?_dropWhile_not drop cs
  rwa [hc] at hhead

/-- Dropping takes all of a front part that may go, and stops at what may not. -/
theorem dropWhile_append_eq {drop : Char → Bool} {front kept : List Char}
    (hfront : ∀ c ∈ front, drop c = true) (hkept : ∀ c, kept.head? = some c → drop c = false) :
    (front ++ kept).dropWhile drop = kept := by
  rw [List.dropWhile_append_of_pos hfront]
  cases kept with
  | nil => rfl
  | cons c rest => rw [List.dropWhile_cons_of_neg (Bool.eq_false_iff.mp (hkept c rfl))]

/-- What trimming leaves stands between characters that may go, and ends in none. -/
theorem exists_trimChars (drop : Char → Bool) (cs : List Char) :
    ∃ front back, cs = front ++ (trimChars drop cs ++ back) ∧ (∀ c ∈ front, drop c = true) ∧
      (∀ c ∈ back, drop c = true) ∧ (∀ c, (trimChars drop cs).head? = some c → drop c = false) ∧
      ∀ c, (trimChars drop cs).getLast? = some c → drop c = false := by
  obtain ⟨front, hfront, hdropped, hhead⟩ := exists_dropWhile drop cs
  obtain ⟨back, hback, hdropped', hlast⟩ := exists_dropWhile drop (cs.dropWhile drop).reverse
  have hrest : cs.dropWhile drop = trimChars drop cs ++ back.reverse := by
    have hreverse := congrArg List.reverse hback
    rwa [List.reverse_reverse, List.reverse_append] at hreverse
  refine ⟨front, back.reverse, hrest ▸ hfront, hdropped,
    fun c hc => hdropped' c (List.mem_reverse.mp hc), fun c hc => hhead c ?_, fun c hc => ?_⟩
  · rw [hrest, List.head?_append, hc]
    rfl
  · rw [trimChars, List.getLast?_reverse] at hc
    exact hlast c hc

/-- What stands between characters that may go, and ends in none, is what trimming leaves. -/
theorem trimChars_between {drop : Char → Bool} {front kept back : List Char}
    (hfront : ∀ c ∈ front, drop c = true) (hback : ∀ c ∈ back, drop c = true)
    (hhead : ∀ c, kept.head? = some c → drop c = false)
    (hlast : ∀ c, kept.getLast? = some c → drop c = false) :
    trimChars drop (front ++ (kept ++ back)) = kept := by
  have hends : ((kept ++ back).dropWhile drop).reverse.dropWhile drop = kept.reverse := by
    cases kept with
    | nil =>
      have hnone : (back ++ []).dropWhile drop = [] := dropWhile_append_eq hback nofun
      rw [List.append_nil] at hnone
      rw [List.nil_append, hnone]
      rfl
    | cons c rest =>
      rw [List.cons_append, List.dropWhile_cons_of_neg (Bool.eq_false_iff.mp (hhead c rfl)),
        ← List.cons_append, List.reverse_append]
      refine dropWhile_append_eq (fun c hc => hback c (List.mem_reverse.mp hc)) fun c hc => ?_
      rw [List.head?_reverse] at hc
      exact hlast c hc
  rw [trimChars, List.dropWhile_append_of_pos hfront, hends, List.reverse_reverse]

/-- Trimming takes away the blanks at either end, all of them and nothing else. -/
theorem trim_eq_iff {s kept : String} : trim s = kept ↔ Trimmed s kept := by
  constructor
  · rintro rfl
    obtain ⟨front, back, hends⟩ := exists_trimChars isBlank s.toList
    have hkept : (trim s).toList = trimChars isBlank s.toList := String.toList_ofList
    rw [← hkept] at hends
    exact ⟨front, back, hends⟩
  · rintro ⟨front, back, hs, hfront, hback, hhead, hlast⟩
    rw [trim, hs, trimChars_between hfront hback hhead hlast, String.ofList_toList]

end BoundSql.Text
