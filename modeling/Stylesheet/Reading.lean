import Stylesheet.Sheet
import Stylesheet.Cursor

/-!
# Reading rules and declarations

A sheet is blanks and rules; a rule is a word and a block in braces, and in the block are blanks
and declarations; a declaration is the name of a property, a colon, a word and a semicolon. Blanks
may stand between any two of these, but not before the semicolon. Each production starts from a
cursor and gives what it read and the cursor after it, or the first failure. All of them move on
when they succeed, which is why the loops end.
-/

namespace Stylesheet

theorem bind_eq_ok {ε α β : Type} {x : Except ε α} {f : α → Except ε β} {b : β} :
    x >>= f = .ok b ↔ ∃ a, x = .ok a ∧ f a = .ok b := by
  cases x <;> simp [bind, Except.bind]

theorem bind_eq_error {ε α β : Type} {x : Except ε α} {f : α → Except ε β} {e : ε} :
    x >>= f = .error e ↔ x = .error e ∨ ∃ a, x = .ok a ∧ f a = .error e := by
  cases x <;> simp [bind, Except.bind]

theorem mapError_ok {ε ε' α : Type} (f : ε → ε') (a : α) :
    (Except.ok a : Except ε α).mapError f = .ok a :=
  rfl

theorem mapError_error {ε ε' α : Type} (f : ε → ε') (e : ε) :
    (Except.error e : Except ε α).mapError f = .error (f e) :=
  rfl

theorem mapError_eq_ok {ε ε' α : Type} {x : Except ε α} {f : ε → ε'} {a : α} :
    x.mapError f = .ok a ↔ x = .ok a := by
  cases x <;> simp [mapError_ok, mapError_error]

theorem mapError_eq_error {ε ε' α : Type} {x : Except ε α} {f : ε → ε'} {e : ε'} :
    x.mapError f = .error e ↔ ∃ e', x = .error e' ∧ f e' = e := by
  cases x <;> simp [mapError_ok, mapError_error]

/-! ## Words and characters -/

namespace Cursor

/-- Reads a word, and points at the place if there is none. -/
def readWord (c : Cursor) : Except Failure (String × Cursor) :=
  c.word.mapError Failure.pointed

/-- Reads one character, and points at the place if it is another one. -/
def readExactly (expected : String) (c : Cursor) : Except Failure Cursor :=
  (c.exactly expected).mapError Failure.pointed

theorem length_readWord_lt {c c' : Cursor} {s : String} (h : c.readWord = .ok (s, c')) :
    c'.ahead.length < c.ahead.length :=
  length_word_lt (mapError_eq_ok.1 h)

theorem length_readExactly_lt {c c' : Cursor} {s : String} (h : c.readExactly s = .ok c') :
    c'.ahead.length < c.ahead.length :=
  length_exactly_lt (mapError_eq_ok.1 h)

end Cursor

/-! ## Declarations -/

/-- The declaration of a property by its name. If there is none, it is left to others to announce
that. -/
def Declaration.ofName (name value : String) : Except Failure Declaration :=
  match Property.ofName? name with
  | some property => .ok ⟨property, value⟩
  | none => .error ⟨.unknownProperty name, 0, []⟩

/-- Reads a declaration on from behind its name. -/
def Declaration.readValue (name : String) (start : Cursor) :
    Except Failure (Declaration × Cursor) := do
  let c ← start.skipBlanks.readExactly ":"
  let (value, c) ← c.skipBlanks.readWord.mapError (Failure.within .value)
  let c ← c.readExactly ";"
  let d ← Declaration.ofName name value
  return (d, c)

/-- Reads one declaration. A name that is no property is a failure as soon as the name is read,
and it is placed where the declaration was looked for, before any blanks. -/
def Declaration.read (start : Cursor) : Except Failure (Declaration × Cursor) := do
  let (name, c) ← start.skipBlanks.readWord.mapError (Failure.within .name)
  if (Property.ofName? name).isNone then throw (.unknownProperty name start.pos)
  else Declaration.readValue name c

theorem Declaration.length_readValue_lt {name : String} {c c' : Cursor} {d : Declaration}
    (h : Declaration.readValue name c = .ok (d, c')) : c'.ahead.length < c.ahead.length := by
  obtain ⟨c₁, h₁, h⟩ := bind_eq_ok.1 h
  have l₁ := Cursor.length_readExactly_lt h₁
  have l₁' := c.length_skipBlanks_le
  obtain ⟨⟨value, c₂⟩, h₂, h⟩ := bind_eq_ok.1 h
  have l₂ := Cursor.length_readWord_lt (mapError_eq_ok.1 h₂)
  have l₂' := c₁.length_skipBlanks_le
  dsimp only at h
  obtain ⟨c₃, h₃, h⟩ := bind_eq_ok.1 h
  have l₃ := Cursor.length_readExactly_lt h₃
  obtain ⟨d', -, h⟩ := bind_eq_ok.1 h
  cases h
  omega

theorem Declaration.length_read_lt {c c' : Cursor} {d : Declaration}
    (h : Declaration.read c = .ok (d, c')) : c'.ahead.length < c.ahead.length := by
  obtain ⟨⟨name, c₁⟩, h₁, h⟩ := bind_eq_ok.1 h
  have l₁ := Cursor.length_readWord_lt (mapError_eq_ok.1 h₁)
  have l₁' := c.length_skipBlanks_le
  dsimp only at h
  split at h
  · cases h
  · have l₂ := Declaration.length_readValue_lt h
    omega

/-- Reads declarations up to a closing brace or the end of what is ahead, and stays there. -/
def Declaration.readAll (start : Cursor) : Except Failure (List Declaration × Cursor) :=
  let c := start.skipBlanks
  if c.ahead.head?.all (· = '\x7d') then .ok ([], c)
  else
    match _h : Declaration.read c with
    | .error f => .error f
    | .ok (d, c') => (Declaration.readAll c').map fun (ds, last) => (d :: ds, last)
termination_by start.ahead.length
decreasing_by
  exact Nat.lt_of_lt_of_le (Declaration.length_read_lt _h) (Cursor.length_skipBlanks_le start)

theorem Declaration.length_readAll_le {c c' : Cursor} {ds : List Declaration}
    (h : Declaration.readAll c = .ok (ds, c')) : c'.ahead.length ≤ c.ahead.length := by
  fun_induction Declaration.readAll c generalizing ds c' with
  | case1 c =>
    cases h
    exact Cursor.length_skipBlanks_le _
  | case2 => cases h
  | case3 start c _ d c₁ hd =>
    rename_i ih
    rcases hr : Declaration.readAll c₁ with f | ⟨es, c₂⟩ <;> rw [hr] at h <;> cases h
    have l₁ : c.ahead.length ≤ start.ahead.length := start.length_skipBlanks_le
    have l₂ := Declaration.length_read_lt hd
    have l₃ := ih hr
    omega

/-! ## Rules -/

def Rule.read (start : Cursor) : Except Failure (Rule × Cursor) := do
  let (selector, c) ← start.skipBlanks.readWord
  let c ← c.skipBlanks.readExactly "\x7b"
  let (declarations, c) ← Declaration.readAll c
  let c ← c.readExactly "\x7d"
  return (⟨selector, declarations⟩, c)

theorem Rule.length_read_lt {c c' : Cursor} {r : Rule} (h : Rule.read c = .ok (r, c')) :
    c'.ahead.length < c.ahead.length := by
  obtain ⟨⟨selector, c₁⟩, h₁, h⟩ := bind_eq_ok.1 h
  have l₁ := Cursor.length_readWord_lt h₁
  have l₁' := c.length_skipBlanks_le
  dsimp only at h
  obtain ⟨c₂, h₂, h⟩ := bind_eq_ok.1 h
  have l₂ := Cursor.length_readExactly_lt h₂
  have l₂' := c₁.length_skipBlanks_le
  obtain ⟨⟨ds, c₃⟩, h₃, h⟩ := bind_eq_ok.1 h
  have l₃ := Declaration.length_readAll_le h₃
  dsimp only at h
  obtain ⟨c₄, h₄, h⟩ := bind_eq_ok.1 h
  have l₄ := Cursor.length_readExactly_lt h₄
  cases h
  omega

/-- Reads rules to the end of what is ahead or to the first failure: the rules read by then, and
the failure. -/
def Rule.readAll (start : Cursor) : List Rule × Option Failure :=
  let c := start.skipBlanks
  if c.ahead = [] then ([], none)
  else
    match _h : Rule.read c with
    | .error f => ([], some f)
    | .ok (r, c') =>
      let (rs, f) := Rule.readAll c'
      (r :: rs, f)
termination_by start.ahead.length
decreasing_by
  exact Nat.lt_of_lt_of_le (Rule.length_read_lt _h) (Cursor.length_skipBlanks_le start)

def Sheet.read (text : List Char) : Except Failure Sheet :=
  match Rule.readAll (.start text) with
  | (rules, none) => .ok ⟨rules⟩
  | (_, some f) => .error f

end Stylesheet
