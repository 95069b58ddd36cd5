import Stylesheet.Text.Template

/-!
# Filling a template

Text without percent signs is copied, a doubled percent sign stands for one, and a directive without
flags, width or precision puts its argument there with nothing around it: plain text as it is, a
quoted text, or the decimal digits of a number (`IsDirective.fillFrom_cons`). What has been put
there is not looked at again, so a percent sign in it means nothing.

So a template that is made of any texts, with a place for plain text between each and the next,
shows the texts with the arguments between them, if there is one argument for each place and none
of them is a number too long to be written (`Pattern.fill_template`). A number that is too long is
found at its place. That there are fewer arguments than places or more is only found where the
arguments or the template come to an end, and there is no other fault.
-/

namespace Stylesheet

namespace Template

variable {room : Room} {size : Nat} {arguments : List Argument}

/-! ## Text -/

/-- Text as it stands in a template. -/
def doubled (text : List Char) : List Char :=
  text.flatMap fun c => if c = '%' then ['%', '%'] else [c]

theorem fillFrom_cons {c : Char} (hc : c ≠ '%') (cs : List Char) :
    fillFrom room size (c :: cs) arguments = (fillFrom room size cs arguments).map (c :: ·) := by
  rw [fillFrom]
  · exact fun rest h _ => hc h
  · exact hc

theorem fillFrom_percents (cs : List Char) :
    fillFrom room size ('%' :: '%' :: cs) arguments
      = (fillFrom room size cs arguments).map ('%' :: ·) := by
  rw [fillFrom]

theorem fillFrom_doubled (text cs : List Char) :
    fillFrom room size (doubled text ++ cs) arguments
      = (fillFrom room size cs arguments).map (text ++ ·) := by
  induction text with
  | nil => rcases hf : fillFrom room size cs arguments with _ | _ <;> simp [doubled, hf, Except.map]
  | cons c text ih =>
    have hcons : doubled (c :: text) ++ cs
        = (if c = '%' then ['%', '%'] else [c]) ++ (doubled text ++ cs) := by
      rw [doubled, List.flatMap_cons, List.append_assoc, doubled]
    have hmap : ((fillFrom room size cs arguments).map (text ++ ·)).map (c :: ·)
        = (fillFrom room size cs arguments).map (c :: text ++ ·) := by
      rcases fillFrom room size cs arguments with _ | _ <;> rfl
    rw [hcons]
    by_cases hc : c = '%'
    · subst hc
      rw [if_pos rfl, List.cons_append, List.singleton_append, fillFrom_percents, ih, hmap]
    · rw [if_neg hc, List.singleton_append, fillFrom_cons hc, ih, hmap]

theorem fillFrom_of_notMem {text : List Char} (h : '%' ∉ text) (cs : List Char) :
    fillFrom room size (text ++ cs) arguments
      = (fillFrom room size cs arguments).map (text ++ ·) := by
  have hdoubled : doubled text = text := by
    induction text with
    | nil => rfl
    | cons c text ih =>
      have hc : c ≠ '%' := (List.ne_of_not_mem_cons h).symm
      rw [doubled, List.flatMap_cons, if_neg hc, List.singleton_append]
      exact congrArg (c :: ·) (ih (List.not_mem_of_not_mem_cons h))
  rw [← hdoubled, fillFrom_doubled, hdoubled]

/-! ## Places -/

/-- The layout of a directive that is only its letter. -/
def Layout.bare : Layout :=
  ⟨false, false, false, false, false, 0, none⟩

theorem Layout.pad_bare (s : List Char) : Layout.bare.pad room s = .ok s :=
  Layout.pad_of_width_le room (Nat.zero_le _)

/-- The letter can be all of a directive, behind its percent sign. -/
def IsDirective (letter : Char) : Prop :=
  letter ≠ '%' ∧ ∀ cs arguments,
    readLayout (letter :: cs) arguments = .ok (Layout.bare, letter :: cs, arguments)

theorem isDirective_s : IsDirective 's' := ⟨by decide, fun _ _ => rfl⟩

theorem isDirective_r : IsDirective 'r' := ⟨by decide, fun _ _ => rfl⟩

theorem isDirective_d : IsDirective 'd' := ⟨by decide, fun _ _ => rfl⟩

theorem IsDirective.fillFrom_cons {letter : Char} (h : IsDirective letter) {a : Argument}
    {shown : Except Fault (List Char)}
    (hshown : ∀ index, convert room Layout.bare letter index a = shown) (cs : List Char) :
    fillFrom room size ('%' :: letter :: cs) (a :: arguments)
      = shown.bind fun s => (fillFrom room size cs arguments).map (s ++ ·) := by
  rw [fillFrom]
  · split <;> rename_i hl <;> rw [h.2] at hl <;> cases hl
    rw [hshown]
    cases shown <;> rfl
  · rintro rest hrest
    exact h.1 (List.cons.inj hrest).1

theorem IsDirective.fillFrom_nil {letter : Char} (h : IsDirective letter) (cs : List Char) :
    fillFrom room size ('%' :: letter :: cs) [] = .error .tooFewArguments := by
  rw [fillFrom]
  · split <;> rename_i hl <;> rw [h.2] at hl <;> cases hl
  · rintro rest hrest
    exact h.1 (List.cons.inj hrest).1

/-- A directive without a layout shows its argument as it is. -/
theorem convert_plain (index : Nat) (a : Argument) :
    convert room Layout.bare 's' index a = a.plain := by
  rcases h : a.plain with fault | shown <;> simp only [convert, h, bind, Except.bind]
  exact Layout.pad_bare shown

theorem convert_quoted (index : Nat) (s : String) :
    convert room Layout.bare 'r' index (.text s) = .ok (quoted s.toList) :=
  Layout.pad_bare _

theorem Layout.sign_bare (n : Int) :
    Layout.bare.sign n ++ Nat.toDigits 10 n.natAbs = decimal n := by
  unfold decimal Layout.sign
  split <;> rfl

theorem convert_decimal (index : Nat) (n : Int) :
    convert room Layout.bare 'd' index (.number n)
      = if isTooLong n then .error .numberTooLong else .ok (decimal n) := by
  have hzeros : filler room (0 - (Nat.toDigits 10 n.natAbs).length) '0' = .ok [] := by
    rw [Nat.zero_sub, filler, copies?_zero]
    rfl
  change Layout.bare.integer room n [] (digitsIn 10 n) = _
  cases hn : isTooLong n with
  | true => simp [Layout.integer, digitsIn, hn, Layout.bare, bind, Except.bind]
  | false =>
    have hdigits : digitsIn 10 n = .ok (Nat.toDigits 10 n.natAbs) := by
      rw [digitsIn, hn]
      rfl
    rw [hdigits]
    change (filler room (0 - (Nat.toDigits 10 n.natAbs).length) '0').bind _ = _
    rw [hzeros]
    change Layout.bare.pad room (Layout.bare.sign n ++ [] ++ ([] ++ Nat.toDigits 10 n.natAbs)) = _
    rw [List.append_nil, List.nil_append, Layout.sign_bare, Layout.pad_bare]
    rfl

/-! ## Arguments -/

namespace Argument

/-- The argument is a number of more than 4300 digits. -/
def isLong : Argument → Bool
  | number n => 4300 < (Nat.toDigits 10 n.natAbs).length
  | _ => false

/-- The argument in words: a text is itself, and a number its decimal numeral. -/
def shown : Argument → String
  | text s => s
  | number n => toString n
  | truth b => if b then "True" else "False"

theorem toList_toString (n : Int) : (toString n).toList = decimal n := by
  cases n with
  | ofNat n => exact Nat.toList_repr
  | negSucc n =>
    change ("-" ++ Nat.repr (n + 1)).toList = decimal (Int.negSucc n)
    rw [decimal, if_pos (Int.negSucc_lt_zero n), Int.natAbs_negSucc, String.toList_append,
      Nat.toList_repr]
    rfl

theorem plain_eq (a : Argument) :
    a.plain = if a.isLong then .error .numberTooLong else .ok a.shown.toList := by
  cases a with
  | text s => rfl
  | truth b => rfl
  | number n =>
    rw [shown, toList_toString]
    rfl

/-- A number starts to be long where the digits that it may have are not enough for it. -/
theorem isLong_pow (k : Nat) (hk : 4300 ≤ k) : (number (Nat.pow 10 k)).isLong = true := by
  have hlength : k < (Nat.toDigits 10 (Nat.pow 10 k)).length := by
    rw [← Nat.not_le, Nat.length_toDigits_le_iff (by decide) (by omega)]
    exact Nat.lt_irrefl _
  exact decide_eq_true (Nat.lt_of_le_of_lt hk hlength)

end Argument

/-! ## Patterns -/

/-- Texts with a place for an argument between each and the next. -/
structure Pattern where
  first : String
  /-- The texts behind the places. -/
  rest : List String

namespace Pattern

def places (p : Pattern) : Nat :=
  p.rest.length

def template (p : Pattern) : String :=
  "%s".intercalate ((p.first :: p.rest).map fun text => String.ofList (doubled text.toList))

/-- The texts with the arguments in their places. -/
def filled (p : Pattern) (arguments : List Argument) : String :=
  p.first ++ String.join (List.zipWith (fun a text => a.shown ++ text) arguments p.rest)

theorem toList_template_nil (first : String) :
    (Pattern.mk first []).template.toList = doubled first.toList := by
  simp [template]

theorem toList_template_cons (first text : String) (rest : List String) :
    (Pattern.mk first (text :: rest)).template.toList
      = doubled first.toList ++ '%' :: 's' :: (Pattern.mk text rest).template.toList := by
  simp [template, String.toList_intercalate]

theorem filled_nil (first : String) : (Pattern.mk first []).filled [] = first := by
  simp [filled]

theorem filled_cons (first text : String) (rest : List String) (a : Argument) :
    (Pattern.mk first (text :: rest)).filled (a :: arguments)
      = first ++ (a.shown ++ (Pattern.mk text rest).filled arguments) := by
  simp [filled, String.append_assoc]

/-- What is shown if there is one argument for each place, and what is wrong if there is not or if
an argument cannot be shown in its place. -/
def counted {α : Type} (places : Nat) (arguments : List Argument) (shown : α) : Except Fault α :=
  if (arguments.take places).any Argument.isLong then .error .numberTooLong
  else if arguments.length < places then .error .tooFewArguments
  else if places < arguments.length then .error .tooManyArguments
  else .ok shown

theorem map_counted {α β : Type} (f : α → β) (places : Nat) (arguments : List Argument)
    (shown : α) :
    (counted places arguments shown).map f = counted places arguments (f shown) := by
  unfold counted
  split
  · rfl
  split
  · rfl
  split <;> rfl

theorem counted_cons {α : Type} {places : Nat} {a : Argument} (h : a.isLong = false)
    (arguments : List Argument) (shown : α) :
    counted (places + 1) (a :: arguments) shown = counted places arguments shown := by
  simp only [counted, List.take_succ_cons, List.any_cons, h, Bool.false_or, List.length_cons,
    Nat.add_lt_add_iff_right]

theorem counted_cons_long {α : Type} {places : Nat} {a : Argument} (h : a.isLong = true)
    (arguments : List Argument) (shown : α) :
    counted (places + 1) (a :: arguments) shown = .error .numberTooLong := by
  simp only [counted, List.take_succ_cons, List.any_cons, h, Bool.true_or, if_true]

/-- The induction goes from place to place, with one argument taken at each. -/
theorem fillFrom_template (p : Pattern) (arguments : List Argument) :
    fillFrom room size p.template.toList arguments
      = counted p.places arguments (p.filled arguments).toList := by
  obtain ⟨first, rest⟩ := p
  unfold places
  induction rest generalizing first arguments with
  | nil =>
    rw [toList_template_nil, ← List.append_nil (doubled _), fillFrom_doubled, fillFrom]
    cases arguments with
    | nil => simp [Except.map, filled_nil, counted]
    | cons a arguments => rfl
  | cons text rest ih =>
    rw [toList_template_cons, fillFrom_doubled]
    cases arguments with
    | nil =>
      rw [isDirective_s.fillFrom_nil]
      rfl
    | cons a arguments =>
      rw [List.length_cons]
      have hplain (index : Nat) : convert room Layout.bare 's' index a
          = if a.isLong then .error .numberTooLong else .ok a.shown.toList :=
        (convert_plain index a).trans a.plain_eq
      rw [isDirective_s.fillFrom_cons hplain]
      cases ha : a.isLong with
      | false =>
        rw [counted_cons ha, filled_cons, String.toList_append, String.toList_append]
        change ((fillFrom room size _ arguments).map (a.shown.toList ++ ·)).map (first.toList ++ ·)
          = _
        rw [ih, map_counted, map_counted]
      | true =>
        rw [counted_cons_long ha]
        rfl

/-- What comes of a pattern is decided by the number of arguments and the length of those that have
a place. -/
theorem fill_template (p : Pattern) (arguments : List Argument) :
    fill room p.template arguments = counted p.places arguments (p.filled arguments) := by
  rw [fill, fillFrom_template, map_counted, String.ofList_toList]

end Pattern

/-- A template that is a place and nothing else. -/
theorem fill_plain (a : Argument) :
    fill room "%s" [a] = if a.isLong then .error .numberTooLong else .ok a.shown := by
  have htemplate : "%s" = (Pattern.mk "" [""]).template := by decide
  rw [htemplate, Pattern.fill_template, Pattern.filled_cons, Pattern.filled_nil]
  cases ha : a.isLong <;> simp [Pattern.counted, Pattern.places, ha]

end Template

end Stylesheet
