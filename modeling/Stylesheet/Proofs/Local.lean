import Stylesheet.Proofs.Announced

/-!
# What a production looks at

A production that succeeds looks at what it reads and at nothing else: the text in front of it is
behind the cursor, and what comes next is left for others. One that fails looks at nothing behind
the character that decides its failure. That character is the one at the failure, or the one behind
a word that names no property, since such a word is looked up when its end is known.

The proof cuts a broken text there. Whatever is put behind the cut, the text breaks in the same way
at the same place (`Declaration.Breaks.exists_cut`, `Rule.Breaks.exists_cut`), and a breach decides
what a production fails with. What is read does not depend on the position either, unless the
cursor comes to zero from below (`LocalOn`). At a position of a text this says what parsing comes
to there, and in every text that starts alike from there on (`LocalAt`).
-/

namespace Stylesheet

/-! ## Cut texts -/

section Cut

variable {s : List Char} {b : Breach} {k : Nat}

/-- A declaration that breaks off is cut behind the character that decides it. -/
theorem Declaration.Breaks.exists_cut (h : Declaration.Breaks s b k)
    (hk : b.decided s k < s.length) :
    ∃ u c r, s = u ++ c :: r ∧
      ∀ t, Declaration.Breaks (u ++ c :: t) b k ∧ b.decided (u ++ c :: t) k = u.length := by
  cases h with
  | @name w s hw hs hl =>
    obtain ⟨c, r, rfl⟩ := exists_cons_of_length_lt hk
    exact ⟨_, c, r, rfl, fun t => ⟨.name hw (hs.cut_cons t) (hl.cut_cons t), rfl⟩⟩
  | @property w name s hw hn hl hp =>
    rw [Breach.decided_property hw hn] at hk
    obtain ⟨c, r, rfl⟩ := exists_cons_of_length_lt hk
    exact ⟨_, c, r, rfl, fun t =>
      ⟨.property hw hn (hl.cut_cons t) hp, Breach.decided_property hw hn _⟩⟩
  | @colon p w w₁ s hw h₁ hl hs hc =>
    obtain ⟨c, r, rfl⟩ := exists_cons_of_length_lt hk
    exact ⟨_, c, r, rfl, fun t => ⟨.colon p hw h₁ (hl.cut t) (hs.cut_cons t) hc, rfl⟩⟩
  | @value p w w₁ w₂ s hw h₁ h₂ hs hl =>
    obtain ⟨c, r, rfl⟩ := exists_cons_of_length_lt hk
    exact ⟨_, c, r, rfl, fun t => ⟨.value p hw h₁ h₂ (hs.cut_cons t) (hl.cut_cons t), rfl⟩⟩
  | @semicolon p w w₁ w₂ value s hw h₁ h₂ hv hl hc =>
    obtain ⟨c, r, rfl⟩ := exists_cons_of_length_lt hk
    exact ⟨_, c, r, rfl, fun t => ⟨.semicolon p hw h₁ h₂ hv (hl.cut_cons t) hc, rfl⟩⟩

theorem Rule.Breaks.exists_cut (h : Rule.Breaks s b k) (hk : b.decided s k < s.length) :
    ∃ u c r, s = u ++ c :: r ∧
      ∀ t, Rule.Breaks (u ++ c :: t) b k ∧ b.decided (u ++ c :: t) k = u.length := by
  cases h with
  | @selector w s hw hs hl =>
    obtain ⟨c, r, rfl⟩ := exists_cons_of_length_lt hk
    exact ⟨_, c, r, rfl, fun t => ⟨.selector hw (hs.cut_cons t) (hl.cut_cons t), rfl⟩⟩
  | @opening w selector w₁ s hw hsel h₁ hl hs hbrace =>
    obtain ⟨c, r, rfl⟩ := exists_cons_of_length_lt hk
    exact ⟨_, c, r, rfl, fun t => ⟨.opening hw hsel h₁ (hl.cut t) (hs.cut_cons t) hbrace, rfl⟩⟩
  | closing hu => exact absurd hk (Nat.lt_irrefl _)
  | @declaration u s d r b k hu hd hbrace hb =>
    rw [Breach.decided_append, List.length_append, Nat.add_lt_add_iff_left] at hk
    obtain ⟨u', c, r', hs, hcut⟩ := hb.exists_cut hk
    refine ⟨u ++ u', c, r', by rw [hs, List.append_assoc], fun t => ?_⟩
    obtain ⟨ht, hdecided⟩ := hcut t
    rw [List.append_assoc, Breach.decided_append, hdecided, List.length_append]
    refine ⟨?_, rfl⟩
    -- The cut text still starts with the character that the declaration starts with.
    rcases u' with _ | ⟨d', u'⟩
    · obtain ⟨rfl, -⟩ := List.cons.inj hs
      exact .declaration hu hd hbrace ht
    · obtain ⟨rfl, -⟩ := List.cons.inj hs
      exact .declaration hu hd hbrace ht

end Cut

/-! ## Reading what is ahead -/

section Reading

variable {α : Type} {s : List Char}

/-- What the production does with this text ahead of it depends on the start of the text only: on
what it reads, or if it fails, on what comes up to the character that decides it. From below zero
this holds as long as the cursor does not come past zero. -/
inductive LocalOn (read : Cursor → Except Failure (α × Cursor)) (s : List Char) : Prop where
  | reads {u r : List Char} {x : α} :
    s = u ++ r →
    (∀ (n : Nat) (pos : Int) (t : List Char), 0 ≤ pos ∨ pos + u.length ≤ 0 →
      read ⟨n, pos, u ++ t⟩ = .ok (x, ⟨n, pos + u.length, t⟩)) →
    LocalOn read s
  | fails {b : Breach} {k : Nat} :
    (∀ (n : Nat) (pos : Int), 0 ≤ pos → read ⟨n, pos, s⟩ = .error (b.failure (pos + k))) →
    (b.decided s k < s.length → ∃ u c r, s = u ++ c :: r ∧ b.decided s k = u.length ∧
      ∀ (n : Nat) (pos : Int) (t : List Char), 0 ≤ pos ∨ pos + u.length < 0 →
        read ⟨n, pos, u ++ c :: t⟩ = .error (b.failure (pos + k))) →
    LocalOn read s

/-- What is read as its breach says, and can be cut where that is decided, is local. -/
theorem localOn_of_breaks {read : Cursor → Except Failure (α × Cursor)}
    {breaks : List Char → Breach → Nat → Prop} {b : Breach} {k : Nat}
    (hread : ∀ {n : Nat} {pos : Int} {t}, 0 ≤ pos ∨ pos + b.decided t k < 0 → breaks t b k →
      read ⟨n, pos, t⟩ = .error (b.failure (pos + k)))
    (hb : breaks s b k)
    (hcut : b.decided s k < s.length → ∃ u c r, s = u ++ c :: r ∧
      ∀ t, breaks (u ++ c :: t) b k ∧ b.decided (u ++ c :: t) k = u.length) :
    LocalOn read s := by
  refine .fails (fun n pos hpos => hread (.inl hpos) hb) fun hk => ?_
  obtain ⟨u, c, r, hs, hcut⟩ := hcut hk
  refine ⟨u, c, r, hs, by rw [hs, (hcut r).2], fun n pos t hpos => ?_⟩
  obtain ⟨ht, hdecided⟩ := hcut t
  exact hread (by rwa [hdecided]) ht

theorem Declaration.localOn (s : List Char) : LocalOn Declaration.read s := by
  rcases Declaration.derives_or_breaks s with ⟨w, t, r, d, rfl, hw, hd⟩ | ⟨b, k, hb⟩
  · refine .reads (x := d) (List.append_assoc w t r).symm fun n pos t' hpos => ?_
    rw [List.append_assoc]
    exact Declaration.read_derives hpos hw hd t'
  · exact localOn_of_breaks Declaration.read_breaks hb hb.exists_cut

theorem Rule.localOn (s : List Char) : LocalOn Rule.read s := by
  rcases Rule.derives_or_breaks s with ⟨w, t, r, rule, rfl, hw, hr⟩ | ⟨b, k, hb⟩
  · refine .reads (x := rule) (List.append_assoc w t r).symm fun n pos t' hpos => ?_
    rw [List.append_assoc]
    exact Rule.read_derives hpos hw hr t'
  · exact localOn_of_breaks Rule.read_breaks hb hb.exists_cut

end Reading

/-! ## Parsing in a text -/

section Parsing

variable {α : Type} {text : List Char} {start : Int} {c : Cursor}
  {read : Cursor → Except Failure (α × Cursor)}

theorem Cursor.place_append (u v : List Char) :
    Cursor.place (u ++ v) u.length = .ok ⟨(u ++ v).length, u.length, v⟩ := by
  rw [Cursor.place_natCast, List.drop_left]

/-- What is reported of a breach that a production comes to. -/
theorem parseAt_breach {b : Breach} {k : Int} (hc : Cursor.place text start = .ok c)
    (h : read c = .error (b.failure k)) :
    ∃ a, parseAt text start read = .error (.failed a) ∧ a.report.cause = b.cause
      ∧ a.report.offset = k ∧ a.Tells text b.part := by
  obtain ⟨a, ha, hreport⟩ := b.exists_announcement text k
  obtain ⟨rfl, hstands⟩ := Cursor.place_eq_ok hc
  exact ⟨a, by rw [parseAt_error hstands h, ha], hreport⟩

end Parsing

/-- Where the failure is decided in the text. For a word that names no property that is its end, and
blanks before the word come behind the offset. -/
def Report.decided (text : List Char) (r : Report) : Int :=
  match r.cause with
  | .unknownProperty word =>
    r.offset + ((Location.after text r.offset).takeWhile isBlank).length + word.length
  | _ => r.offset

theorem Report.decided_eq {text : List Char} {r : Report} {b : Breach} {i k : Nat}
    (hcause : r.cause = b.cause) (hoffset : r.offset = (i : Int) + k) :
    r.decided text = (i : Int) + b.decided (text.drop i) k := by
  cases b with
  | property word =>
    have hnat : ((i : Int) + k).toNat = i + k := by omega
    simp only [decided, hcause, Breach.cause, hoffset, Breach.decided, Location.after, hnat,
      List.drop_drop]
    omega
  | _ => simp only [decided, hcause, Breach.cause, hoffset, Breach.decided]

/-- What parsing comes to at this position of the text, and what the production does with any text
that starts in the same way. -/
inductive LocalAt {α : Type} (read : Cursor → Except Failure (α × Cursor)) (text : List Char)
    (i : Nat) : Prop where
  | reads {u r : List Char} {x : α} :
    text.drop i = u ++ r →
    parseAt text i read = .ok (x, ⟨text.length, i + u.length, r⟩) →
    (∀ (n : Nat) (pos : Int) (t : List Char), 0 ≤ pos ∨ pos + u.length ≤ 0 →
      read ⟨n, pos, u ++ t⟩ = .ok (x, ⟨n, pos + u.length, t⟩)) →
    LocalAt read text i
  | fails {b : Breach} {k : Nat} {a : Announcement} :
    parseAt text i read = .error (.failed a) →
    a.report.cause = b.cause → a.report.offset = (i : Int) + k → a.Tells text b.part →
    (a.report.decided text < text.length → ∃ u c r, text.drop i = u ++ c :: r ∧
      a.report.decided text = (i : Int) + u.length ∧ k ≤ u.length ∧
      ∀ (n : Nat) (pos : Int) (t : List Char), 0 ≤ pos ∨ pos + u.length < 0 →
        read ⟨n, pos, u ++ c :: t⟩ = .error (b.failure (pos + k))) →
    LocalAt read text i

theorem LocalOn.localAt {α : Type} {read : Cursor → Except Failure (α × Cursor)}
    {text : List Char} {i : Nat} (h : LocalOn read (text.drop i)) : LocalAt read text i := by
  have hi := Cursor.place_natCast text i
  rcases h with @⟨u, r, x, hs, hread⟩ | @⟨b, k, hfail, hcut⟩
  · have hok := hread text.length i r (.inl (Int.natCast_nonneg _))
    rw [← hs] at hok
    exact .reads hs (parseAt_ok hi hok) hread
  · obtain ⟨a, ha, hcause, hoffset, htells⟩ :=
      parseAt_breach hi (hfail text.length i (Int.natCast_nonneg _))
    refine .fails ha hcause hoffset htells fun hdecided => ?_
    have hlen : (text.drop i).length = text.length - i := List.length_drop
    have hd : a.report.decided text = i + b.decided (text.drop i) k :=
      Report.decided_eq hcause hoffset
    have hk := b.le_decided (text.drop i) k
    obtain ⟨u, c, r, hs, hu, hread⟩ := hcut (by omega)
    exact ⟨u, c, r, hs, by rw [hd, hu], by omega, hread⟩

/-- The text from one position to another. -/
def between (text : List Char) (i j : Int) : List Char :=
  (text.take j.toNat).drop i.toNat

theorem between_drop {text u r : List Char} {i : Nat} (h : text.drop i = u ++ r) {j : Int}
    (hj : j = (i : Int) + u.length) : between text i j = u := by
  have hnat : j.toNat = i + u.length := by omega
  rw [between, Int.toNat_natCast, hnat, List.drop_take, h, Nat.add_sub_cancel_left, List.take_left]

/-- What comes of parsing at this position comes of it in every text that has the same characters
from there on, up to where the production ends or its failure is decided, at the position that
they have there. -/
def Local {α : Type} (text : List Char) (start : Nat)
    (parse : List Char → Int → Except Trouble (α × Cursor)) : Prop :=
  match parse text start with
  | .ok (x, c) => ∀ u v, ∃ c',
      parse (u ++ between text start c.pos ++ v) u.length = .ok (x, c')
        ∧ c'.pos = u.length + (c.pos - start)
  | .error (.failed a) => a.report.decided text < text.length → ∀ u v, ∃ a',
      parse (u ++ between text start (a.report.decided text + 1) ++ v) u.length
          = .error (.failed a')
        ∧ a'.report.cause = a.report.cause
        ∧ a'.report.offset = u.length + (a.report.offset - start)
  | .error _ => False

theorem local_of_localAt {α : Type} {text : List Char} {start : Nat}
    {read : Cursor → Except Failure (α × Cursor)} (h : LocalAt read text start) :
    Local text start fun text start => parseAt text start read := by
  dsimp only [Local]
  rcases h with @⟨s, r, x, hs, hok, hread⟩ | @⟨b, k, a, ha, hcause, hoffset, -, hcut⟩
  · rw [hok]
    intro u v
    have hv := hread (u ++ (s ++ v)).length u.length v (.inl (Int.natCast_nonneg _))
    rw [between_drop hs rfl, List.append_assoc, parseAt_ok (Cursor.place_append _ _) hv]
    refine ⟨_, rfl, ?_⟩
    dsimp only
    omega
  · rw [ha]
    intro hdecided u v
    obtain ⟨s, c, r, hs, hd, -, hread⟩ := hcut hdecided
    rw [← List.singleton_append, ← List.append_assoc] at hs
    have hbetween : between text start (a.report.decided text + 1) = s ++ [c] :=
      between_drop hs (by rw [hd, List.length_append, List.length_singleton]; omega)
    have hv := hread (u ++ (s ++ c :: v)).length u.length v (.inl (Int.natCast_nonneg _))
    obtain ⟨a', ha', hcause', hoffset', -⟩ := parseAt_breach (Cursor.place_append _ _) hv
    refine ⟨a', ?_, by rw [hcause', hcause], by rw [hoffset', hoffset]; omega⟩
    rw [hbetween, List.append_assoc, List.append_assoc, List.singleton_append]
    exact ha'

/-- A declaration and a rule are read, or refused, by their own characters alone. -/
theorem parse_local (text : List Char) (start : Nat) :
    Local text start Declaration.parseAt ∧ Local text start Rule.parseAt :=
  ⟨local_of_localAt (Declaration.localOn _).localAt, local_of_localAt (Rule.localOn _).localAt⟩

end Stylesheet
