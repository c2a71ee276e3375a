import BoundSql.Proofs.Condition.Written

/-!
# Layouts

A layout is a text with open slots. Filling it writes the placeholders of the next names into the
slots, from left to right, so the literal pieces of a layout depend neither on the names nor on the
dialect. In a sound layout the two things that rendering looks at in its own text, whether it is
empty and whether it ends where no blank is needed, can be read off the pieces.
-/

namespace BoundSql

/-- A piece of a layout. -/
inductive Piece where
  /-- A text that is written as it is. -/
  | text (s : String)
  /-- A place for a placeholder. -/
  | slot
  deriving DecidableEq, Repr

/-- A text with open slots. -/
abbrev Layout := List Piece

namespace Layout

/-- The layout of a text; no piece is left of the empty text. -/
def literal (s : String) : Layout := if s = "" then [] else [.text s]

/-- The number of slots. -/
def slots : Layout → Nat
  | [] => 0
  | .text _ :: rest => slots rest
  | .slot :: rest => slots rest + 1

/-- The layout with the placeholders of the names issued after the counter stood at `c`. -/
def fill (d : Dialect) (c : Nat) : Layout → String
  | [] => ""
  | .text s :: rest => s ++ fill d c rest
  | .slot :: rest => d.placeholder (Binder.nameOf (c + 1)) ++ fill d (c + 1) rest

/-- Layouts with a separator between them. -/
def joined (separator : String) : List Layout → Layout
  | [] => []
  | [t] => t
  | t :: u :: rest => t ++ (literal separator ++ joined separator (u :: rest))

/-- The number of slots of several layouts. -/
def slotsAll : List Layout → Nat
  | [] => 0
  | t :: rest => slots t + slotsAll rest

/-- Several layouts filled one after another. -/
def fillAll (d : Dialect) (c : Nat) : List Layout → List String
  | [] => []
  | t :: rest => fill d c t :: fillAll d (c + slots t) rest

variable (d : Dialect) (c : Nat)

@[simp] theorem fill_nil : fill d c [] = "" := rfl

@[simp] theorem fill_literal (s : String) : fill d c (literal s) = s := by
  by_cases h : s = "" <;> simp [literal, fill, h]

@[simp] theorem slots_nil : slots [] = 0 := rfl

@[simp] theorem slots_literal (s : String) : slots (literal s) = 0 := by
  by_cases h : s = "" <;> simp [literal, slots, h]

@[simp] theorem slots_append (t u : Layout) : slots (t ++ u) = slots t + slots u := by
  induction t with
  | nil => simp
  | cons piece rest ih => cases piece <;> simp only [List.cons_append, slots, ih]; omega

/-- The second of two layouts gets the names that the first one leaves. -/
theorem fill_append (t u : Layout) :
    fill d c (t ++ u) = fill d c t ++ fill d (c + slots t) u := by
  induction t generalizing c with
  | nil => simp
  | cons piece rest ih =>
    cases piece with
    | text s => simp only [List.cons_append, fill, slots, ih, String.append_assoc]
    | slot =>
      have hnext : c + 1 + slots rest = c + (slots rest + 1) := by omega
      simp only [List.cons_append, fill, slots, ih, String.append_assoc, hnext]

@[simp] theorem slotsAll_nil : slotsAll [] = 0 := rfl

@[simp] theorem slotsAll_cons (t : Layout) (ts : List Layout) :
    slotsAll (t :: ts) = slots t + slotsAll ts := rfl

@[simp] theorem slotsAll_append (ts us : List Layout) :
    slotsAll (ts ++ us) = slotsAll ts + slotsAll us := by
  induction ts with
  | nil => simp
  | cons t rest ih => simp [ih, Nat.add_assoc]

theorem fillAll_append (ts us : List Layout) :
    fillAll d c (ts ++ us) = fillAll d c ts ++ fillAll d (c + slotsAll ts) us := by
  induction ts generalizing c with
  | nil => simp [fillAll]
  | cons t rest ih =>
    simp only [List.cons_append, fillAll, ih, slotsAll_cons, Nat.add_assoc]

/-- Layouts that are joined have the slots of all of them. -/
theorem slots_joined (separator : String) (ts : List Layout) :
    slots (joined separator ts) = slotsAll ts := by
  induction ts with
  | nil => rfl
  | cons t rest ih =>
    cases rest with
    | nil => simp [joined]
    | cons u rest => simp [joined, ih]

/-- Filling layouts that are joined is joining what they are filled to. -/
theorem fill_joined (separator : String) (ts : List Layout) :
    fill d c (joined separator ts) = String.intercalate separator (fillAll d c ts) := by
  induction ts generalizing c with
  | nil => simp [joined, fillAll]
  | cons t rest ih =>
    cases rest with
    | nil => simp [joined, fillAll]
    | cons u rest =>
      have hrest := ih (c + slots t)
      simp only [fillAll] at hrest
      simp only [joined, fill_append, fillAll, fill_literal, slots_literal, Nat.add_zero, hrest,
        String.intercalate_cons_cons, String.append_assoc]

/-- Texts as layouts. -/
theorem fillAll_literal (ss : List String) : fillAll d c (ss.map literal) = ss := by
  induction ss with
  | nil => rfl
  | cons s rest ih => simp [fillAll, ih]

@[simp] theorem slotsAll_literal (ss : List String) : slotsAll (ss.map literal) = 0 := by
  induction ss with
  | nil => rfl
  | cons s rest ih => simp [ih]

/-- Slots as layouts of their own get one placeholder each. -/
theorem fillAll_slots (n : Nat) :
    fillAll d c (List.replicate n [.slot]) = Expression.placeholders d c n := by
  induction n generalizing c with
  | zero => rfl
  | succ n ih =>
    rw [List.replicate_succ, Expression.placeholders_succ]
    simp [fillAll, fill, slots, ih]

@[simp] theorem slotsAll_slots (n : Nat) : slotsAll (List.replicate n [.slot]) = n := by
  induction n with
  | zero => rfl
  | succ n ih =>
    rw [List.replicate_succ, slotsAll_cons, ih]
    exact Nat.add_comm 1 n

/-- Whether the pieces end where no blank is needed: nowhere, or after an opening parenthesis. -/
def tight (t : Layout) : Bool :=
  match t.getLast? with
  | none => true
  | some (.text s) => s.toList.getLast? == some '('
  | some .slot => false

/-- In every closed dialect the filled text is empty only without pieces, and ends where no blank is
needed only if the pieces do. -/
def Sound (t : Layout) : Prop :=
  ∀ (d : Dialect) (c : Nat), d.Closed →
    (fill d c t = "" → t = []) ∧ Expression.joinsTightly (fill d c t) = tight t

theorem sound_nil : Sound [] := fun _ _ _ => ⟨fun _ => rfl, rfl⟩

theorem tight_append {t u : Layout} (h : u ≠ []) : tight (t ++ u) = tight u := by
  obtain ⟨front, piece, hu⟩ := List.eq_nil_or_concat u |>.resolve_left h
  simp [tight, hu]

/-- Sound layouts in a row are sound. -/
theorem Sound.append {t u : Layout} (ht : t.Sound) (hu : u.Sound) : Sound (t ++ u) := by
  by_cases h : u = []
  · rw [h, List.append_nil]
    exact ht
  · intro d c hd
    have hfill : fill d (c + slots t) u ≠ "" := fun he => h ((hu d _ hd).1 he)
    rw [fill_append, tight_append h, Expression.joinsTightly_append _ hfill]
    refine ⟨fun he => ?_, (hu d _ hd).2⟩
    exact absurd (String.append_eq_empty_iff.mp he).2 hfill

/-- Whatever ends with a text that is there is sound. -/
theorem sound_concat (t : Layout) {s : String} (h : s ≠ "") : Sound (t ++ [.text s]) := by
  intro d c hd
  have hfill : fill d c (t ++ [.text s]) = fill d c t ++ s := by simp [fill_append, fill]
  rw [hfill, Expression.joinsTightly_append _ h, tight_append (by simp)]
  refine ⟨fun he => absurd (String.append_eq_empty_iff.mp he).2 h, ?_⟩
  simp [tight, Expression.joinsTightly, h]

/-- A literal text is sound. -/
theorem sound_literal (s : String) : Sound (literal s) := by
  by_cases h : s = ""
  · rw [literal, if_pos h]
    exact sound_nil
  · rw [literal, if_neg h]
    exact sound_concat [] h

/-- A slot right after a blank is sound: a placeholder does not end like the start of a group. -/
theorem sound_blank_slot (s : String) : Sound [.text (s ++ " "), .slot] := by
  intro d c hd
  have hs : s ++ " " ≠ "" := by simp
  have hfill : fill d c [.text (s ++ " "), .slot] =
      s ++ " " ++ d.placeholder (Binder.nameOf (c + 1)) := by simp [fill]
  rw [hfill]
  refine ⟨fun he => absurd (String.append_eq_empty_iff.mp he).1 hs, ?_⟩
  change Expression.joinsTightly _ = false
  by_cases hp : d.placeholder (Binder.nameOf (c + 1)) = ""
  · rw [hp, String.append_empty, Expression.joinsTightly_append _ (by decide)]
    decide
  · rw [Expression.joinsTightly_append _ hp]
    exact Expression.joinsTightly_eq_false_iff.mpr ⟨hp, hd (c + 1)⟩

/-- A sound layout without pieces is the only one that is filled to nothing. -/
theorem Sound.fill_eq_empty_iff {t : Layout} (h : t.Sound) {d : Dialect} (hd : d.Closed) (c : Nat) :
    fill d c t = "" ↔ t = [] := by
  refine ⟨(h d c hd).1, ?_⟩
  rintro rfl
  rfl

end Layout

end BoundSql
