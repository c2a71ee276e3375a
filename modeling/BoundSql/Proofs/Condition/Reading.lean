import BoundSql.Proofs.Condition.Tree

/-!
# Reading an expression back

Where columns and operators are words, an expression and its bindings tell which conditions they
were written for. A comparison is read as three words, and only the place of a word says whether it
is a connector, so that a column may be spelled like one. What is read is the normal form of the
row: without empty groups, and with the same connector for all first members, because a first one is
written without its own.
-/

namespace BoundSql

namespace Expression

/-- What an expression is made of. -/
inductive Lexeme where
  | word (text : String)
  | opening
  | closing
  deriving DecidableEq, Repr

/-- The word that ends here, if there is one. -/
def pending (word : List Char) : List Lexeme :=
  if word.isEmpty then [] else [.word (String.ofList word)]

/-- The lexemes of a text of which a word is read so far. -/
def lexemesFrom (word : List Char) : List Char → List Lexeme
  | [] => pending word
  | ' ' :: rest => pending word ++ lexemesFrom [] rest
  | '(' :: rest => pending word ++ .opening :: lexemesFrom [] rest
  | ')' :: rest => pending word ++ .closing :: lexemesFrom [] rest
  | c :: rest => lexemesFrom (word ++ [c]) rest

/-- The lexemes of a text. -/
def lexemes (text : List Char) : List Lexeme := lexemesFrom [] text

mutual

/-- Read a member under a connector, behind a row inside of groups that are open. -/
def readMember (connector : Connector) (row : List Node) (outer : List (Connector × List Node)) :
    List Value → List Lexeme → Option (List Node)
  | v :: vs, .word column :: .word operator :: .word _ :: rest =>
    readNext (row ++ [.test connector (.compare (.text column) (.text operator) v)]) outer vs rest
  | vs, .opening :: rest => readMember .and [] ((connector, row) :: outer) vs rest
  | _, _ => none

/-- Read what follows a member: the end, a connector with another member, or the end of a group. -/
def readNext (row : List Node) (outer : List (Connector × List Node)) :
    List Value → List Lexeme → Option (List Node)
  | [], [] => if outer.isEmpty then some row else none
  | vs, .word w :: rest => readMember (.ofText w) row outer vs rest
  | vs, .closing :: rest =>
    match outer with
    | [] => none
    | (connector, before) :: outer => readNext (before ++ [.group connector row]) outer vs rest
  | _, _ => none

end

/-- The conditions that an expression with its bindings was written for, in normal form. -/
def decode (expression : String) (bindings : Bindings) : Option (List Node) :=
  match lexemes expression.toList with
  | [] => if bindings.isEmpty then some [] else none
  | first :: rest => readMember .and [] [] (Entries.values bindings) (first :: rest)

/-- A text that is read as a word: it is not empty and has no blanks and no parentheses. -/
structure Word (s : String) : Prop where
  /-- The text is not empty. -/
  ne_empty : s ≠ ""
  /-- No character ends the word. -/
  undivided : ∀ c ∈ s.toList, c ≠ ' ' ∧ c ≠ '(' ∧ c ≠ ')'

/-- A test that can be computed. -/
theorem word_of_all {s : String} (hne : s ≠ "")
    (h : (s.toList.all fun c => c != ' ' && c != '(' && c != ')') = true) : Word s := by
  refine ⟨hne, fun c hm => ?_⟩
  have hc := List.all_eq_true.mp h c hm
  simpa [and_assoc] using hc

/-- Nothing in front of a text goes on into its first word. -/
def Apart (text : List Char) : Prop := ∀ c ∈ text.head?, c = ' ' ∨ c = '(' ∨ c = ')'

/-- A blank sets words apart. -/
theorem apart_blank (rest : List Char) : Apart (' ' :: rest) :=
  fun _ h => .inl (by simpa using h.symm)

theorem apart_closing (rest : List Char) : Apart (')' :: rest) :=
  fun _ h => .inr (.inr (by simpa using h.symm))

/-- A blank is no lexeme. -/
theorem lexemes_blank (rest : List Char) : lexemes (' ' :: rest) = lexemes rest := rfl

theorem lexemesFrom_append {word : List Char} {part : List Char}
    (h : ∀ c ∈ part, c ≠ ' ' ∧ c ≠ '(' ∧ c ≠ ')') (rest : List Char) :
    lexemesFrom word (part ++ rest) = lexemesFrom (word ++ part) rest := by
  induction part generalizing word with
  | nil => rw [List.nil_append, List.append_nil]
  | cons c part ih =>
    obtain ⟨hblank, hopening, hclosing⟩ := h c List.mem_cons_self
    rw [List.cons_append, lexemesFrom.eq_5 _ _ _ hblank hopening hclosing,
      ih fun c hm => h c (List.mem_cons_of_mem _ hm), List.append_assoc, List.singleton_append]

/-- A text that stands apart ends the word in front of it. -/
theorem Apart.lexemesFrom {rest : List Char} (h : Apart rest) (word : List Char) :
    lexemesFrom word rest = pending word ++ lexemes rest := by
  cases rest with
  | nil => simp [Expression.lexemesFrom, lexemes, pending]
  | cons c rest =>
    rcases h c rfl with rfl | rfl | rfl <;> rfl

/-- A word in front of a text that stands apart is its first lexeme. -/
theorem lexemes_word {w : String} (hw : Word w) {rest : List Char} (h : Apart rest) :
    lexemes (w.toList ++ rest) = .word w :: lexemes rest := by
  have hne : w.toList.isEmpty = false := by simpa using hw.ne_empty
  rw [lexemes, lexemesFrom_append hw.undivided, List.nil_append, h.lexemesFrom, pending, hne,
    String.ofList_toList]
  rfl

/-- Every placeholder is read as a word. -/
def Worded (d : Dialect) : Prop := ∀ n, Word (d.placeholder (Binder.nameOf n))

/-- A colon and a name make a word. -/
theorem worded_sqlite : Worded (.ofTarget .sqlite) := by
  intro n
  refine ⟨by simp [Dialect.ofTarget, Dialect.between], fun c hm => ?_⟩
  have hchars : c = ':' ∨ c = 'p' ∨ c ∈ Nat.toDigits 10 n := by
    simpa [Dialect.ofTarget, Dialect.between, Binder.nameOf,
      Nat.toString_eq_ofList_toDigits] using hm
  rcases hchars with rfl | rfl | hdigit
  · decide
  · decide
  · have hd := Nat.isDigit_of_mem_toDigits (by decide) (by decide) hdigit
    refine ⟨?_, ?_, ?_⟩ <;> rintro rfl <;> exact absurd hd (by decide)

end Expression

open Expression

/-- A comparison of a column with a value, where column and operator are words. -/
def Test.Worded (t : Test) : Prop :=
  ∃ column operator value, t = .compare (.text column) (.text operator) value ∧
    Word column ∧ Word operator

namespace Node

mutual

/-- The normal form of a node under a connector. -/
def normal (connector : Connector) : Node → Node
  | test _ t => test connector t
  | group _ members => group connector (normalAll true members)

/-- The normal form of a row: the connectors of first members are forgotten. -/
def normalAll (first : Bool) : List Node → List Node
  | [] => []
  | node :: rest => normal (if first then .and else node.connector) node :: normalAll false rest

end

mutual

/-- The tests of a node are comparisons of words, and no group in it is empty. -/
def Legible : Node → Prop
  | test _ t => t.Worded
  | group _ members => members ≠ [] ∧ LegibleAll members

/-- The tests of a row are comparisons of words, and no group in it is empty. -/
def LegibleAll : List Node → Prop
  | [] => True
  | node :: rest => Legible node ∧ LegibleAll rest

end

theorem legibleAll_append {left right : List Node} (hl : LegibleAll left) (hr : LegibleAll right) :
    LegibleAll (left ++ right) := by
  induction left with
  | nil => exact hr
  | cons node rest ih => exact ⟨hl.1, ih hl.2⟩

mutual

/-- What is left of a node whose tests are comparisons of words is legible, -/
theorem legibleAll_prune (node : Node) (h : ∀ t ∈ tests node, t.Worded) :
    LegibleAll node.prune := by
  match node with
  | .test c t => exact ⟨h t List.mem_cons_self, trivial⟩
  | .group c members =>
    have hmembers := legibleAll_pruneAll members h
    rw [prune]
    split
    · trivial
    · rename_i hne
      exact ⟨⟨hne, hmembers⟩, trivial⟩

/-- and so is what is left of a row. -/
theorem legibleAll_pruneAll (nodes : List Node) (h : ∀ t ∈ testsAll nodes, t.Worded) :
    LegibleAll (pruneAll nodes) := by
  match nodes with
  | [] => trivial
  | node :: rest =>
    refine legibleAll_append (legibleAll_prune node fun t hm => ?_)
      (legibleAll_pruneAll rest fun t hm => ?_)
    · exact h t (List.mem_append_left _ hm)
    · exact h t (List.mem_append_right _ hm)

end

mutual

/-- The text of a node does not depend on its connector and those of first members, -/
theorem text_normal (d : Dialect) (c : Connector) (node : Node) :
    text d (normal c node) = text d node := by
  match node with
  | .test _ t => rfl
  | .group _ members => rw [normal, text, text, textAll_normalAll d true members]

/-- nor does that of a row. -/
theorem textAll_normalAll (d : Dialect) (first : Bool) (nodes : List Node) :
    textAll d first (normalAll first nodes) = textAll d first nodes := by
  match nodes with
  | [] => rfl
  | node :: rest =>
    rw [normalAll, textAll, textAll, text_normal d _ node, textAll_normalAll d false rest]
    cases first <;> cases node <;> rfl

end

/-- The values of a node, in the order of its tests. -/
def values (node : Node) : List Value := node.tests.flatMap Test.values

/-- The values of a row, in the order of its tests. -/
def valuesAll (nodes : List Node) : List Value := (testsAll nodes).flatMap Test.values

theorem valuesAll_cons (node : Node) (rest : List Node) :
    valuesAll (node :: rest) = node.values ++ valuesAll rest := List.flatMap_append

/-- The word of a connector is read as that connector. -/
theorem ofText_text (c : Connector) : Connector.ofText c.text = c := by
  cases c <;> decide +kernel

/-- Connectors are words. -/
theorem word_connector (c : Connector) : Word c.text := by
  cases c <;> exact word_of_all (by decide) (by decide)

variable {d : Dialect}

/-- A comparison of words is read back. -/
theorem read_test (hd : Worded d) {t : Test} (ht : t.Worded) (b : Binder) :
    ∃ s, (Expression.body d t).run b = (.ok (.text s), b.bindAll t.values) ∧
      ∀ c row outer vs rest, Apart rest →
        readMember c row outer (t.values ++ vs) (lexemes (s.toList ++ rest)) =
          readNext (row ++ [.test c t]) outer vs (lexemes rest) := by
  obtain ⟨column, operator, value, rfl, hcolumn, hoperator⟩ := ht
  refine ⟨_, rfl, fun c row outer vs rest hrest => ?_⟩
  have hblank : " ".toList = [' '] := rfl
  have hlexemes : lexemes ((column ++ " " ++ operator ++ " " ++
        d.placeholder (Binder.nameOf (b.counter + 1))).toList ++ rest) =
      .word column :: .word operator :: .word (d.placeholder (Binder.nameOf (b.counter + 1))) ::
        lexemes rest := by
    simp only [String.toList_append, List.append_assoc, hblank, List.cons_append,
      List.nil_append]
    rw [lexemes_word hcolumn (apart_blank _), lexemes_blank, lexemes_word hoperator (apart_blank _),
      lexemes_blank, lexemes_word (hd _) hrest]
  change readMember c row outer (value :: vs) (lexemes ((column ++ " " ++ operator ++ " " ++
    d.placeholder (Binder.nameOf (b.counter + 1))).toList ++ rest)) = _
  rw [hlexemes, readMember]

mutual

/-- A legible node is read back under any connector, -/
theorem read_node (hd : Worded d) (node : Node) (h : node.Legible) (b : Binder) :
    ∃ s, (text d node).run b = (.ok s, b.bindAll node.values) ∧
      ∀ c row outer vs rest, Apart rest →
        readMember c row outer (node.values ++ vs) (lexemes (s.toList ++ rest)) =
          readNext (row ++ [normal c node]) outer vs (lexemes rest) := by
  match node with
  | .test connector t =>
    obtain ⟨s, hs, hread⟩ := read_test hd h b
    have hvalues : (Node.test connector t).values = t.values := List.append_nil _
    refine ⟨s, ?_, ?_⟩
    · rw [text, Attempt.run_bind, hs, hvalues]
      rfl
    · rw [hvalues]
      exact hread
  | .group connector members =>
    obtain ⟨s, hs, hread⟩ := read_row hd members h.1 h.2 b
    have hvalues : (Node.group connector members).values = valuesAll members := rfl
    refine ⟨"(" ++ s ++ ")", ?_, fun c row outer vs rest hrest => ?_⟩
    · rw [text, Attempt.run_bind, hs]
      rfl
    · have hopening : lexemes (("(" ++ s ++ ")").toList ++ rest) =
          .opening :: lexemes (s.toList ++ ')' :: rest) := by
        simp only [String.toList_append, List.append_assoc]
        rfl
      have hclosing : lexemes (')' :: rest) = .closing :: lexemes rest := rfl
      rw [hopening, readMember, hvalues, hread _ _ _ (apart_closing rest), hclosing, readNext]
      rfl

/-- and so is what follows a member of a legible row, -/
theorem read_rest (hd : Worded d) (nodes : List Node) (h : LegibleAll nodes) (b : Binder) :
    ∃ s, (textAll d false nodes).run b = (.ok s, b.bindAll (valuesAll nodes)) ∧
      (∀ rest, Apart rest → Apart (s.toList ++ rest)) ∧
      ∀ row outer vs rest, Apart rest →
        readNext row outer (valuesAll nodes ++ vs) (lexemes (s.toList ++ rest)) =
          readNext (row ++ normalAll false nodes) outer vs (lexemes rest) := by
  match nodes with
  | [] =>
    refine ⟨"", rfl, fun rest hrest => hrest, fun row outer vs rest _ => ?_⟩
    rw [normalAll, List.append_nil]
    rfl
  | node :: nodes =>
    obtain ⟨s, hs, hread⟩ := read_node hd node h.1 b
    obtain ⟨t, ht, hapart, hread'⟩ := read_rest hd nodes h.2 (b.bindAll node.values)
    refine ⟨" " ++ node.connector.text ++ " " ++ s ++ t, ?_, fun rest _ => ?_,
      fun row outer vs rest hrest => ?_⟩
    · rw [textAll, Attempt.run_bind, hs]
      dsimp only
      rw [Attempt.run_bind, ht, valuesAll_cons, Binder.bindAll_append]
      rfl
    · simp only [String.toList_append, List.append_assoc]
      exact apart_blank _
    · have hblank : " ".toList = [' '] := rfl
      have hlexemes : lexemes ((" " ++ node.connector.text ++ " " ++ s ++ t).toList ++ rest) =
          .word node.connector.text :: lexemes (s.toList ++ (t.toList ++ rest)) := by
        simp only [String.toList_append, List.append_assoc, hblank, List.cons_append,
          List.nil_append]
        rw [lexemes_blank, lexemes_word (word_connector _) (apart_blank _), lexemes_blank]
      rw [hlexemes, readNext, ofText_text, valuesAll_cons, List.append_assoc,
        hread _ _ _ _ _ (hapart _ hrest), hread' _ _ _ _ hrest, normalAll, List.append_assoc]
      rfl

/-- and a legible row from its first member on. -/
theorem read_row (hd : Worded d) (nodes : List Node) (hne : nodes ≠ []) (h : LegibleAll nodes)
    (b : Binder) :
    ∃ s, (textAll d true nodes).run b = (.ok s, b.bindAll (valuesAll nodes)) ∧
      ∀ outer vs rest, Apart rest →
        readMember .and [] outer (valuesAll nodes ++ vs) (lexemes (s.toList ++ rest)) =
          readNext (normalAll true nodes) outer vs (lexemes rest) := by
  match nodes with
  | node :: rest =>
    obtain ⟨s, hs, hread⟩ := read_node hd node h.1 b
    obtain ⟨t, ht, hapart, hread'⟩ := read_rest hd rest h.2 (b.bindAll node.values)
    refine ⟨s ++ t, ?_, fun outer vs tail htail => ?_⟩
    · rw [textAll, Attempt.run_bind, hs]
      dsimp only
      rw [Attempt.run_bind, ht, valuesAll_cons, Binder.bindAll_append]
      rfl
    · rw [valuesAll_cons, List.append_assoc, String.toList_append, List.append_assoc,
        hread _ _ _ _ _ (hapart _ htail), hread' _ _ _ _ htail]
      rfl

end

/-- What is written of a row without empty groups is read back from it and its bindings. -/
theorem decode_textAll (hd : Worded d) (nodes : List Node) (h : LegibleAll nodes) (b : Binder) :
    ∃ s b', (textAll d true nodes).run b.reset = (.ok s, b') ∧
      decode s b'.params = some (normalAll true nodes) := by
  match nodes with
  | [] => exact ⟨"", b.reset, rfl, rfl⟩
  | node :: rest =>
    obtain ⟨s, hs, hread⟩ := read_row hd (node :: rest) (List.cons_ne_nil _ _) h b.reset
    refine ⟨s, _, hs, ?_⟩
    have hread' := hread [] [] [] nofun
    rw [List.append_nil, List.append_nil] at hread'
    have hvalues : Entries.values (b.reset.bindAll (valuesAll (node :: rest))).params =
        valuesAll (node :: rest) := by
      rw [Binder.params_reset_bindAll, Entries.values, List.map_snd_zip]
      simp [Binder.issued]
    rw [decode]
    split
    · -- the text of a member has a lexeme, else nothing could be read
      rename_i hnone
      have hstuck : ∀ vs, readMember .and [] [] vs [] = none := by
        intro vs
        cases vs <;> rfl
      rw [hnone, hstuck] at hread'
      cases hread'
    · rename_i first others hlexemes
      rw [hvalues, ← hlexemes, hread']
      rfl

/-- The expression of a row of comparisons of words is the text of what is left of the row, and it
is read back from it and its bindings. -/
theorem render_decode (hd : Worded d) (hclosed : d.Closed) (clause : String) (b : Binder)
    {nodes : List Node} (h : ∀ t ∈ testsAll nodes, t.Worded) :
    ∃ s b', (render d clause (tokensAll nodes)).run b.reset = (.ok s, b') ∧
      (textAll d true (pruneAll nodes)).run b.reset = (.ok s, b') ∧
      decode s b'.params = some (normalAll true (pruneAll nodes)) := by
  have hwritable : ∀ t ∈ testsAll nodes, t.isWritable = true := by
    intro t hm
    obtain ⟨column, operator, value, rfl, -⟩ := h t hm
    rfl
  have hraw : ∀ sql, .raw sql ∈ testsAll nodes → ∃ s, sql = .text s ∧ Solid s := by
    intro sql hm
    obtain ⟨column, operator, value, hcompare, -⟩ := h _ hm
    cases hcompare
  obtain ⟨s, hfollows⟩ : ∃ s, Follows d clause .start b.reset (tokensAll nodes) (pruneAll nodes)
      ((testsAll nodes).flatMap Test.values) s :=
    follows_row nodes .start b.reset Progress.settled_start
      (solidFrom_of_closed hclosed hwritable hraw b.reset)
  obtain ⟨s', b', htext, hdecode⟩ :=
    decode_textAll hd (pruneAll nodes) (legibleAll_pruneAll nodes h) b
  have hsame : (Except.ok s, b.reset.bindAll ((testsAll nodes).flatMap Test.values)) =
      (Except.ok s', b') := hfollows.text.symm.trans htext
  have hrender := hfollows.render
  rw [hsame] at hrender
  exact ⟨s', b', hrender, htext, hdecode⟩

end Node

/-- An expression with its bindings is read back as the conditions it was rendered from, up to empty
groups and the connectors of first members; and it is the same for two rows of conditions only if
they agree up to these. -/
theorem Expression.render_eq_iff (clause clause' : String) (b : Binder) {left right : List Node}
    (hl : ∀ t ∈ Node.testsAll left, t.Worded) (hr : ∀ t ∈ Node.testsAll right, t.Worded) :
    ∃ s s' b' b'',
      (render (.ofTarget .sqlite) clause (Node.tokensAll left)).run b.reset = (.ok s, b') ∧
      (render (.ofTarget .sqlite) clause' (Node.tokensAll right)).run b.reset = (.ok s', b'') ∧
      decode s b'.params = some (Node.normalAll true (Node.pruneAll left)) ∧
      decode s' b''.params = some (Node.normalAll true (Node.pruneAll right)) ∧
      (s = s' ∧ b'.params = b''.params ↔
        Node.normalAll true (Node.pruneAll left) = Node.normalAll true (Node.pruneAll right)) := by
  obtain ⟨s, b', hrun, htext, hdecode⟩ :=
    Node.render_decode worded_sqlite (Dialect.closed_ofTarget .sqlite) clause b hl
  obtain ⟨s', b'', hrun', htext', hdecode'⟩ :=
    Node.render_decode worded_sqlite (Dialect.closed_ofTarget .sqlite) clause' b hr
  refine ⟨s, s', b', b'', hrun, hrun', hdecode, hdecode', ?_, ?_⟩
  · rintro ⟨rfl, hparams⟩
    rw [hparams, hdecode'] at hdecode
    exact (Option.some.inj hdecode).symm
  · intro hsame
    rw [← Node.textAll_normalAll, hsame, Node.textAll_normalAll, htext'] at htext
    cases htext
    exact ⟨rfl, rfl⟩

/-- Columns and operators that are spelled like connectors change nothing: the conditions
`AND OR 1 OR (OR AND 2 AND AND = 3)` are told from their expression, whatever the connectors of
first members are and wherever empty groups stand. -/
theorem Expression.render_eq_iff_connectors :
    let test (c : Connector) (column operator : String) (value : Int) : Node :=
      .test c (.compare (.text column) (.text operator) (.int value))
    let left : List Node :=
      [test .and "AND" "OR" 1, .group .or [test .and "OR" "AND" 2, test .and "AND" "=" 3]]
    let right : List Node :=
      [.group .and [.group .or []], test .or "AND" "OR" 1, .group .and [],
        .group .or [test .or "OR" "AND" 2, .group .or [], test .and "AND" "=" 3]]
    (∀ t ∈ Node.testsAll left, t.Worded) ∧ (∀ t ∈ Node.testsAll right, t.Worded) ∧
      ∃ s b' b'',
        (render (.ofTarget .sqlite) "WHERE" (Node.tokensAll left)).run .fresh = (.ok s, b') ∧
        (render (.ofTarget .sqlite) "HAVING" (Node.tokensAll right)).run .fresh = (.ok s, b'') ∧
        b'.params = b''.params ∧ decode s b'.params = some left := by
  intro test left right
  have hwords : Word "AND" ∧ Word "OR" ∧ Word "=" :=
    ⟨Node.word_connector .and, Node.word_connector .or, word_of_all (by decide) (by decide)⟩
  obtain ⟨hand, hor, hequals⟩ := hwords
  have hl : ∀ t ∈ Node.testsAll left, t.Worded := by
    intro t hm
    simp only [left, test, Node.testsAll, Node.tests, List.append_nil, List.cons_append,
      List.nil_append, List.mem_cons, List.not_mem_nil, or_false] at hm
    rcases hm with rfl | rfl | rfl
    · exact ⟨_, _, _, rfl, hand, hor⟩
    · exact ⟨_, _, _, rfl, hor, hand⟩
    · exact ⟨_, _, _, rfl, hand, hequals⟩
  have hr : ∀ t ∈ Node.testsAll right, t.Worded := hl
  obtain ⟨s, s', b', b'', hrun, hrun', hdecode, -, hiff⟩ :=
    render_eq_iff "WHERE" "HAVING" .fresh hl hr
  obtain ⟨rfl, hparams⟩ := hiff.mpr rfl
  exact ⟨hl, hr, s, b', b'', hrun, hrun', hparams, hdecode⟩

end BoundSql
