import BoundSql.Proofs.Binary64.Rounding
import BoundSql.Proofs.Desk.Paging

/-!
# The number of pages

The number of pages is found with doubles, and for totals and page sizes of at most 53 bits it is
exact: every row lies on one page, no page is empty, and a page has a next one exactly if rows lie
behind it. That holds as well where the page size is given as a double.
-/

namespace BoundSql

namespace Page

/-- The windows of so many rows each cover a total with so many pages: each row lies in the window
of one page, and no window is empty. -/
structure Covers (total size pages : Nat) : Prop where
  /-- Each row lies in one window. -/
  once : ∀ i < total, ∃! k, 1 ≤ k ∧ k ≤ pages ∧ (k - 1) * size ≤ i ∧ i < k * size
  /-- Each window holds a row. -/
  inhabited : ∀ k, 1 ≤ k → k ≤ pages → (k - 1) * size < total

variable {total size : Nat}

/-- As many pages lie before a row as windows are full before it. -/
theorem lt_ceilDiv_iff (hsize : 0 < size) {k : Nat} : k < total ⌈/⌉ size ↔ k * size < total := by
  rw [← not_le, ceilDiv_le_iff_le_mul hsize, not_le, Nat.mul_comm]

/-- The exact quotient, rounded up, is the number of pages that cover the total. -/
theorem covers_ceilDiv (hsize : 0 < size) : Covers total size (total ⌈/⌉ size) := by
  constructor
  · intro i hi
    have hstart : i / size * size ≤ i := Nat.div_mul_le_self i size
    have hpage : i / size < total ⌈/⌉ size := (lt_ceilDiv_iff hsize).mpr (hstart.trans_lt hi)
    refine ⟨i / size + 1, ⟨Nat.succ_pos _, hpage, hstart, ?_⟩, ?_⟩
    · exact (Nat.div_lt_iff_lt_mul hsize).mp (Nat.lt_succ_self _)
    · rintro k ⟨hk, -, hlow, hhigh⟩
      have hle : k - 1 ≤ i / size := (Nat.le_div_iff_mul_le hsize).mpr hlow
      have hlt : i / size < k := (Nat.div_lt_iff_lt_mul hsize).mpr hhigh
      omega
  · intro k hk hpages
    exact (lt_ceilDiv_iff hsize).mp (by omega)

end Page

namespace Binary64

variable {total : Nat} {x y : Binary64} {p q : ℚ}

/-- An integer of at most 53 bits is a double. -/
theorem holds_ofInt (htotal : total ≤ 2 ^ 53) : (ofInt total).Holds total := by
  have hsign : ofInt total = ofQuotient false total 1 := by
    have hnonneg : ¬(total : Int) < 0 := by omega
    rw [ofInt, decide_eq_false hnonneg, Int.natAbs_natCast]
  rw [hsign]
  rcases Nat.eq_zero_or_pos total with rfl | hpositive
  · exact ⟨0, minExponent, rfl, by simp⟩
  obtain ⟨m, e, hdouble, -, hnear, hexponent⟩ :=
    ofQuotient_spec hpositive htotal Nat.one_pos (by decide) Nat.one_pos rfl
  rw [Nat.cast_one, div_one] at hnear hexponent
  rcases hexponent with hexponent | hexact
  · obtain ⟨t, rfl⟩ : ∃ t : Nat, e = -t := ⟨e.natAbs, by omega⟩
    have hm : m = total * 2 ^ t := by
      refine eq_of_near ?_
      rw [zpow_neg, zpow_natCast, div_inv_eq_mul] at hnear
      exact_mod_cast hnear
    have hvalue : (m : ℚ) * 2 ^ (-t : Int) = total := by
      rw [hm, zpow_neg, zpow_natCast]
      push_cast
      exact mul_inv_cancel_right₀ (by positivity) _
    rwa [hvalue] at hdouble
  · rwa [hexact] at hdouble

/-- The quotient of two doubles is the double nearest to the quotient of their values. -/
theorem Holds.div (hx : x.Holds p) (hy : y.Holds q) (hq : 0 < q) :
    ∃ num den : Nat, 0 < den ∧ x.div y = ofQuotient false num den ∧ (num / den : ℚ) = p / q := by
  obtain ⟨m, e, rfl, rfl⟩ := hx
  obtain ⟨n, f, rfl, rfl⟩ := hy
  have hn : n ≠ 0 := by
    rintro rfl
    simp at hq
  refine ⟨m * (scale e).1 * (scale f).2, (scale e).2 * (n * (scale f).1), ?_, if_neg hn, ?_⟩
  · exact Nat.mul_pos (scale_pos e).2 (Nat.mul_pos (Nat.pos_of_ne_zero hn) (scale_pos f).1)
  · rw [← scale_div, ← scale_div]
    push_cast
    rw [mul_div_assoc', mul_div_assoc', div_div_div_eq]

/-- A double that is read as a positive integer has that value. -/
theorem holds_of_integer {n : Nat} (h : Record.integer (.float x) = .ok (n : Int)) (hn : 0 < n) :
    x.Holds n := by
  cases x with
  | finite negative m e =>
    have hdown : (0 : Int) < (scale e).2 := by exact_mod_cast (scale_pos e).2
    set a : Int :=
      if negative then -((m * (scale e).1 : Nat) : Int) else (m * (scale e).1 : Nat) with ha
    have hread : (if !(a % ((scale e).2 : Int) == 0) then Except.error Record.Fault.fractional
        else if Record.fitsWord (finite negative m e) then .ok (a.tdiv (scale e).2)
        else .error .tooLarge) = .ok (n : Int) := h
    split at hread
    · cases hread
    · rename_i hwhole
      have hmod : a % ((scale e).2 : Int) = 0 := by simpa using hwhole
      split at hread
      · have hdiv : a.tdiv (scale e).2 = n := by injection hread
        have hexact : a = n * (scale e).2 := by
          rw [← hdiv, Int.tdiv_mul_cancel (Int.dvd_of_emod_eq_zero hmod)]
        have hpositive : 0 < a := hexact ▸ mul_pos (by exact_mod_cast hn) hdown
        cases negative with
        | true =>
          simp only [if_true] at ha
          omega
        | false =>
          refine ⟨m, e, rfl, ?_⟩
          have hvalue : m * (scale e).1 = n * (scale e).2 := by
            simp only [Bool.false_eq_true, if_false] at ha
            exact_mod_cast ha.symm.trans hexact
          have hdown' : ((scale e).2 : ℚ) ≠ 0 := by exact_mod_cast (scale_pos e).2.ne'
          rw [← scale_div, mul_div_assoc', div_eq_iff hdown']
          exact_mod_cast hvalue
      · cases hread
  | infinite negative => cases h
  | nan => cases h

end Binary64

namespace Number

variable {total size : Nat}

/-- A double that has a ceiling is finite. -/
theorem finite_of_ceil {x : Binary64} {n : Int} (h : x.ceil? = some n) :
    (match x with
      | .infinite _ => Except.error Failure.overflow
      | x => .ok x) = .ok x := by
  cases x with
  | infinite negative => cases h
  | finite negative m e => rfl
  | nan => rfl

/-- A quotient is rounded up to the number that its ceiling says. -/
theorem quotientCeil_of_quotient {i n : Int} {x : Number} {y : Binary64}
    (hquotient : x.quotient i = .ok y) (hceil : y.ceil? = some n) : x.quotientCeil i = .ok n := by
  have hbind : ∀ next : Binary64 → Except Failure Int, (Except.ok y >>= next) = next y :=
    fun _ => rfl
  rw [quotientCeil, hquotient, hbind, hceil]

/-- The number of pages of an integer size is exact, -/
theorem quotientCeil_int (htotal : total ≤ 2 ^ 53) (hsize : 0 < size) (hsize' : size ≤ 2 ^ 53) :
    (int size).quotientCeil total = .ok ((total ⌈/⌉ size : Nat) : Int) := by
  have hceil := Binary64.ceil_ofQuotient htotal hsize hsize' hsize rfl
  refine quotientCeil_of_quotient ?_ hceil
  have hnonneg : ∀ k : Nat, decide ((k : Int) < 0) = false := fun k => decide_eq_false (by omega)
  rw [quotient, hnonneg, hnonneg, Int.natAbs_natCast, Int.natAbs_natCast]
  exact finite_of_ceil hceil

/-- and so is that of a size given as a double. -/
theorem quotientCeil_float {x : Binary64} (hx : x.Holds size) (htotal : total ≤ 2 ^ 53)
    (hsize : 0 < size) (hsize' : size ≤ 2 ^ 53) :
    (float x).quotientCeil total = .ok ((total ⌈/⌉ size : Nat) : Int) := by
  have htotal' := Binary64.holds_ofInt htotal
  obtain ⟨num, den, hden, hdiv, hvalue⟩ := htotal'.div hx (by exact_mod_cast hsize)
  have hceil := Binary64.ceil_ofQuotient htotal hsize hsize' hden hvalue
  rw [← hdiv] at hceil
  refine quotientCeil_of_quotient ?_ hceil
  have hdouble : toDouble total = .ok (Binary64.ofInt total) := finite_of_ceil htotal'.ceil
  rw [quotient, hdouble]
  rfl

/-- Whatever is read as a page size of at most 53 bits divides totals of at most 53 bits
exactly. -/
theorem quotientCeil_of_integer {x : Number} (hx : Record.integer x.value = .ok (size : Int))
    (htotal : total ≤ 2 ^ 53) (hsize : 0 < size) (hsize' : size ≤ 2 ^ 53) :
    x.quotientCeil total = .ok ((total ⌈/⌉ size : Nat) : Int) := by
  cases x with
  | int i =>
    cases hx
    exact quotientCeil_int htotal hsize hsize'
  | float x => exact quotientCeil_float (Binary64.holds_of_integer hx hsize) htotal hsize hsize'

/-- The first total that is no double is divided as the one before it. -/
theorem quotientCeil_of_integer_beyond {x : Number} (hx : Record.integer x.value = .ok 1) :
    x.quotientCeil (2 ^ 53 + 1) = .ok (2 ^ 53) := by
  cases x with
  | int i =>
    cases hx
    have hdouble : Binary64.ofQuotient false (2 ^ 53 + 1) 1 = .finite false (2 ^ 52) 1 := by
      decide +kernel
    refine quotientCeil_of_quotient (y := .finite false (2 ^ 52) 1) ?_ (by decide +kernel)
    show (match Binary64.ofQuotient false (2 ^ 53 + 1) 1 with
      | .infinite _ => Except.error Failure.overflow
      | x => .ok x) = _
    rw [hdouble]
  | float x =>
    have hsame : Binary64.ofInt (2 ^ 53 + 1) = Binary64.ofInt (2 ^ 53 : Nat) := by decide +kernel
    have hx : x.Holds (1 : Nat) := Binary64.holds_of_integer hx Nat.one_pos
    have hexact := quotientCeil_float hx le_rfl Nat.one_pos (by decide)
    have hquotient : (float x).quotientCeil (2 ^ 53 + 1) =
        (float x).quotientCeil (2 ^ 53 : Nat) := by
      rw [quotientCeil, quotient, toDouble, hsame]
      rfl
    rw [hquotient, hexact, ceilDiv_one]
    rfl

end Number

namespace Desk

open Attempt

variable {L : Type} [Connection L]

/-- A page that is fetched has a number that is at least one, and the number of its pages is that of
its total and its size. -/
theorem pageCount_of_paginate {settings : Settings} {page perPage : Option Value} {d d' : Desk L}
    {p : Page} (h : (paginate settings page perPage).run d = (.ok p, d')) :
    1 ≤ p.page ∧ ∃ size : Number, Record.integer size.value = .ok p.perPage ∧
      size.quotientCeil p.total = .ok p.pageCount := by
  obtain ⟨number, d₁, hnumber, h⟩ := run_bind_eq_ok h
  obtain ⟨size, d₂, hsize, h⟩ := run_bind_eq_ok h
  obtain ⟨⟨total, rows⟩, d₃, hserved, h⟩ := run_bind_eq_ok h
  obtain ⟨pageCount, d₄, hcount, h⟩ := run_bind_eq_ok h
  have hcount := (run_ofExcept_eq_ok hcount).1
  have hparts := (run_ofExcept_eq_ok h).1
  unfold Page.ofParts at hparts
  dsimp only at hparts
  split at hparts
  · rename_i perPage hissues hperPage
    cases hparts
    exact ⟨le_max_left .., size, hperPage, hcount⟩
  · cases hparts

/-- Once both statements are served, a page of so many rows of a total is made. -/
theorem comes_page {settings : Settings} {page : Int} {asked : Option Int} {b : Builder}
    {link link' link'' : L} {row : Option Row} {rows : List Row} {total pageCount : Int}
    (hcount : Counts b link row link') (htotal : countOf row = .ok total)
    (hwindow : Fetches (b.windowed (settings.clamped asked)
      (((max 1 page).toNat - 1) * settings.clamped asked)) link' rows link'')
    (hpages : (Number.int (settings.clamped asked)).quotientCeil total = .ok pageCount)
    (hnames : ∀ row ∈ rows, Query.AllTexts (Entries.keys row)) :
    Comes (paginate settings (some (.int page)) (asked.map .int)) b link
      (.ok ⟨rows, total, max 1 page, settings.clamped asked, pageCount⟩) b link'' := by
  have hserved := hcount.comes
  rw [htotal] at hserved
  have hcomes := comes_paginate (hserved.bind_ok (hwindow.comes.bind_ok (.pure (total, rows))))
    (Builder.restore_windowed b _ _)
  have hpage : (((max 1 page).toNat : Nat) : Int) = max 1 page := by omega
  have hmade : pageOf (max 1 page).toNat (settings.clamped asked) (total, rows) =
      .ok ⟨rows, total, max 1 page, settings.clamped asked, pageCount⟩ := by
    have hparts := Page.ofParts_int rows total (max 1 page) (settings.clamped asked) pageCount
    rw [if_pos (Page.rowIssues_eq_nil_iff.mpr hnames)] at hparts
    rw [pageOf, hpages, hpage]
    exact hparts
  rwa [Except.bind, hmade] at hcomes

/-- For totals and page sizes of at most 53 bits the number of pages is the exact quotient rounded
up: every row lies on one page and no page is empty. A page is made with this number once both
statements are served, and every page that is fetched has it and says that there is a next one
exactly if rows lie behind it. The next greater total has one page too few. -/
theorem paginate_pageCount {total size : Nat} (htotal : total ≤ 2 ^ 53) (hsize : 1 ≤ size)
    (hsize' : size ≤ 2 ^ 53) :
    (Page.Covers total size (total ⌈/⌉ size) ∧
      ((total ⌈/⌉ size : Nat) : Int) = ⌈(total / size : ℚ)⌉) ∧
    (∀ (L : Type) [Connection L] (settings : Settings) (page : Int) (asked : Option Int)
      (b : Builder) (link link' link'' : L) (row : Option Row) (rows : List Row),
      settings.clamped asked = size → Counts b link row link' → countOf row = .ok (total : Int) →
      Fetches (b.windowed size (((max 1 page).toNat - 1) * size)) link' rows link'' →
      (∀ row ∈ rows, Query.AllTexts (Entries.keys row)) →
        Comes (paginate settings (some (.int page)) (asked.map .int)) b link
          (.ok ⟨rows, total, max 1 page, size, (total ⌈/⌉ size : Nat)⟩) b link'') ∧
    (∀ (L : Type) [Connection L] (settings : Settings) (page perPage : Option Value)
      (d d' : Desk L) (p : Page), (paginate settings page perPage).run d = (.ok p, d') →
      p.total = total → p.perPage = size →
        p.pageCount = (total ⌈/⌉ size : Nat) ∧
          (p.hasNext = true ↔ ∃ i : Nat, p.page * size ≤ i ∧ i < total)) ∧
    (Number.int 1).quotientCeil (2 ^ 53 + 1) = .ok (2 ^ 53) ∧
    (∀ (L : Type) [Connection L] (settings : Settings) (page perPage : Option Value)
      (d d' : Desk L) (p : Page), (paginate settings page perPage).run d = (.ok p, d') →
      p.total = 2 ^ 53 + 1 → p.perPage = 1 → p.pageCount = 2 ^ 53) := by
  refine ⟨⟨Page.covers_ceilDiv hsize, ?_⟩, ?_, ?_, Number.quotientCeil_of_integer_beyond rfl, ?_⟩
  · have hpositive : (0 : ℚ) ≤ total / size := by positivity
    exact (Binary64.ceil_eq_ceilDiv hsize hpositive (fun _ hk => hk) fun _ hk => hk).symm
  · rintro L _ settings page asked b link link' link'' row rows rfl hcount hof hwindow hnames
    exact comes_page hcount hof hwindow (Number.quotientCeil_int htotal hsize hsize') hnames
  · intro L _ settings page perPage d d' p hrun hp hp'
    obtain ⟨hpage, given, hgiven, hcount⟩ := pageCount_of_paginate hrun
    rw [hp'] at hgiven
    rw [hp, Number.quotientCeil_of_integer hgiven htotal hsize hsize'] at hcount
    have hpages : p.pageCount = (total ⌈/⌉ size : Nat) := (Except.ok.inj hcount).symm
    refine ⟨hpages, ?_⟩
    obtain ⟨k, hk⟩ : ∃ k : Nat, p.page = k := ⟨p.page.toNat, by omega⟩
    have hnext : k < total ⌈/⌉ size ↔ k * size < total := Page.lt_ceilDiv_iff hsize
    rw [Page.hasNext, decide_eq_true_iff, hpages, hk, Int.ofNat_lt, hnext]
    constructor
    · exact fun hlt => ⟨k * size, by push_cast; exact le_rfl, hlt⟩
    · rintro ⟨i, hle, hlt⟩
      exact lt_of_le_of_lt (by exact_mod_cast hle) hlt
  · intro L _ settings page perPage d d' p hrun hp hp'
    obtain ⟨-, given, hgiven, hcount⟩ := pageCount_of_paginate hrun
    rw [hp'] at hgiven
    rw [hp, Number.quotientCeil_of_integer_beyond hgiven] at hcount
    exact (Except.ok.inj hcount).symm

/-- The second of the pages of two rows of which the greatest odd total of 53 bits needs one more
than half of it. -/
theorem paginate_pageCount_odd :
    let b : Builder := ⟨{ Query.fresh with table := .text "t" }, .fresh, .ofTarget .sqlite⟩
    let rows : List Row := [[(.text "id", .int 3)], [(.text "id", .int 4)]]
    let link : Direct :=
      ⟨.fresh false [], [[[(.text "cnt", .int (2 ^ 53 - 1 : Nat))]], rows], .int 0, .null⟩
    (2 ^ 53 - 1 ≤ 2 ^ 53 ∧ 1 ≤ 2 ∧ 2 ≤ 2 ^ 53) ∧ ∃ p d',
      (paginate .standard (some (.int 2)) ((some 2).map .int)).run ⟨b, ⟨some link, []⟩⟩ =
          (.ok p, d') ∧
        p.total = (2 ^ 53 - 1 : Nat) ∧ p.perPage = (2 : Nat) ∧ p.pageCount = (2 ^ 52 : Nat) ∧
        p.hasNext = true := by
  intro b rows link
  have hbounds : 2 ^ 53 - 1 ≤ 2 ^ 53 ∧ 1 ≤ 2 ∧ 2 ≤ 2 ^ 53 := by decide
  obtain ⟨hless, hone, hmost⟩ := hbounds
  obtain ⟨-, hmade, hfetched, -⟩ := paginate_pageCount hless hone hmost
  have hnames : ∀ row ∈ rows, Query.AllTexts (Entries.keys row) :=
    Page.rowIssues_eq_nil_iff.mp rfl
  have hcomes := hmade Direct .standard 2 (some 2) b link _ _ _ rows rfl ⟨_, rfl, rfl⟩ rfl
    ⟨_, rfl, rfl⟩ hnames
  obtain ⟨log, hrun⟩ := hcomes []
  obtain ⟨hpages, hnext⟩ := hfetched Direct _ _ _ _ _ _ hrun rfl rfl
  have hceil : (2 ^ 53 - 1) ⌈/⌉ 2 = 2 ^ 52 := by decide +kernel
  refine ⟨⟨hless, hone, hmost⟩, _, _, hrun, rfl, rfl, ?_, hnext.mpr ⟨4, by decide, by decide⟩⟩
  rw [hpages, hceil]

end Desk

end BoundSql
