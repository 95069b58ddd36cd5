import Stylesheet.CommandLine.Arguments
import Stylesheet.Proofs.Caret
import Stylesheet.Proofs.LineEnds
import Stylesheet.Proofs.Logged
import Stylesheet.Proofs.Paths
import Stylesheet.Proofs.Stripped

/-!
# The two commands

Both commands answer for the same files, and either of them answers in full or says only what is
wrong. As a sheet is made of words and marks, the marks of its text can be counted: a pair of braces
for each rule, and a colon and a semicolon for each declaration (`Sheet.Derives.count_eq`). There
is nothing in a sheet that a terminal would take as a command, so it is printed as it is.

It does not matter for this how the arguments are understood, as long as they ask for the two
commands on one file, with the level and the encoding that are taken where nothing else is asked
for.
-/

namespace Stylesheet

/-! ## Counting marks -/

section Marks

variable {c : Char}

theorem IsWord.notMem {w : List Char} (hw : IsWord w) (hc : isLetter c = false) : c ∉ w := by
  intro h
  rw [hw.2 c h] at hc
  cases hc

theorem IsWord.count_eq_zero {w : List Char} (hw : IsWord w) (hc : isLetter c = false) :
    w.count c = 0 :=
  List.count_eq_zero.2 (hw.notMem hc)

theorem Declaration.InWords.count_compact {d : Declaration} (h : d.InWords)
    (hc : isLetter c = false) : d.compact.count c = [':', ';'].count c := by
  simp only [Declaration.compact, List.count_append, List.count_cons, List.count_nil,
    d.property.isWord_name.count_eq_zero hc, IsWord.count_eq_zero h hc]
  omega

theorem Declaration.count_compact : ∀ {ds : List Declaration}, (∀ d ∈ ds, d.InWords) →
    isLetter c = false → (ds.flatMap Declaration.compact).count c = ds.length * [':', ';'].count c
  | [], _, _ => by simp
  | d :: ds, h, hc => by
    obtain ⟨hd, hds⟩ := List.forall_mem_cons.1 h
    rw [List.flatMap_cons, List.count_append, hd.count_compact hc,
      Declaration.count_compact hds hc, List.length_cons, Nat.succ_mul, Nat.add_comm]

theorem Rule.InWords.count_compact {r : Rule} (h : r.InWords) (hc : isLetter c = false) :
    r.compact.count c
      = ['\x7b', '\x7d'].count c + r.declarations.length * [':', ';'].count c := by
  rw [Rule.compact, List.count_append, List.count_append, List.count_cons,
    h.selector.count_eq_zero hc, Declaration.count_compact h.declarations hc]
  simp only [List.count_cons, List.count_nil]
  omega

theorem Rule.count_compact : ∀ {rs : List Rule}, (∀ r ∈ rs, r.InWords) → isLetter c = false →
    (rs.flatMap Rule.compact).count c = rs.length * ['\x7b', '\x7d'].count c
      + (rs.flatMap Rule.declarations).length * [':', ';'].count c
  | [], _, _ => by simp
  | r :: rs, h, hc => by
    obtain ⟨hr, hrs⟩ := List.forall_mem_cons.1 h
    rw [List.flatMap_cons, List.count_append, hr.count_compact hc, Rule.count_compact hrs hc,
      List.length_cons, List.flatMap_cons, List.length_append, Nat.succ_mul, Nat.add_mul]
    omega

/-- Each rule has a pair of braces, and each declaration a colon and a semicolon. -/
theorem Sheet.Derives.count_eq {text : List Char} {s : Sheet} (h : Sheet.Derives text s)
    (hc : isLetter c = false) (hb : isBlank c = false) :
    text.count c = s.rules.length * ['\x7b', '\x7d'].count c
      + s.declarations.length * [':', ';'].count c := by
  rw [← count_stripBlanks hb, h.stripBlanks_eq]
  exact Rule.count_compact h.inWords hc

theorem Sheet.Derives.count_marks {text : List Char} {s : Sheet} (h : Sheet.Derives text s) :
    text.count '\x7b' = s.rules.length ∧ text.count '\x7d' = s.rules.length ∧
      text.count ';' = s.declarations.length ∧ text.count ':' = s.declarations.length := by
  refine ⟨?_, ?_, ?_, ?_⟩
  all_goals
    rw [h.count_eq (by decide) (by decide)]
    simp

end Marks

/-! ## Answers without terminal sequences -/

theorem IsWord.escapeFree {s : String} (h : IsWord s.toList) : EscapeFree s :=
  h.notMem (by decide)

theorem Declaration.InWords.escapeFree_toText {d : Declaration} (h : d.InWords) :
    EscapeFree d.toText := by
  have hcolon : EscapeFree ": " := by decide
  exact (d.property.isWord_name.escapeFree.append hcolon).append (IsWord.escapeFree h)

theorem Rule.InWords.escapeFree_toText {r : Rule} (h : r.InWords) : EscapeFree r.toText := by
  have hlabel : EscapeFree "selector: " := by decide
  have hindent : EscapeFree "  " := by decide
  have hend : EscapeFree "\n" := by decide
  refine (((hlabel.append h.selector.escapeFree).append hend).append (.join ?_)).append hend
  intro line hline
  obtain ⟨d, hd, rfl⟩ := List.mem_map.1 hline
  exact (hindent.append (h.declarations d hd).escapeFree_toText).append hend

theorem Sheet.InWords.escapeFree_toText {s : Sheet} (h : s.InWords) : EscapeFree s.toText := by
  refine .join fun text htext => ?_
  obtain ⟨r, hr, rfl⟩ := List.mem_map.1 htext
  exact (h r hr).escapeFree_toText

namespace CommandLine

/-- Only the name of the file can lose something. -/
theorem plainText_answer_check (path : String) (s : Sheet) :
    plainText (answer .check path s)
      = "OK: " ++ plainText (Path.lastName path) ++ " (" ++ toString s.rules.length
        ++ " rule(s), " ++ toString s.declarations.length ++ " declaration(s))\n" := by
  have hfront : EscapeFree "OK: " := by decide
  have hopen : EscapeFree " (" := by decide
  have hrules : EscapeFree " rule(s), " := by decide
  have hend : EscapeFree " declaration(s))\n" := by decide
  have hdecimal (n : Int) : EscapeFree (String.ofList (decimal n)) := by
    rw [EscapeFree, String.toList_ofList]
    exact (isPrinted_decimal n).notMem (by decide)
  have hback : EscapeFree (" (" ++ String.ofList (decimal s.rules.length) ++ " rule(s), "
      ++ String.ofList (decimal s.declarations.length) ++ " declaration(s))\n") :=
    (((hopen.append (hdecimal _)).append hrules).append (hdecimal _)).append hend
  have hanswer : answer .check path s = "OK: " ++ (Path.lastName path ++
      (" (" ++ String.ofList (decimal s.rules.length) ++ " rule(s), "
        ++ String.ofList (decimal s.declarations.length) ++ " declaration(s))\n")) := by
    simp only [answer, String.append_assoc]
  have hspace : (" (" ++ String.ofList (decimal s.rules.length) ++ " rule(s), "
      ++ String.ofList (decimal s.declarations.length)
      ++ " declaration(s))\n").toList.head? = some ' ' := by
    simp only [String.toList_append]
    rfl
  rw [hanswer, hfront.plainText_append, plainText_append_of_head? _ hspace (by decide),
    hback.plainText_eq, ofList_decimal, ofList_decimal]
  simp only [String.append_assoc]

variable {files : Files} {path : String}

/-! ## Answering -/

/-- What is only worth a record for debugging is not shown. -/
theorem showEvent_rule (r : Rule) : showEvent .warning (.rule r) = "" := by
  unfold showEvent
  dsimp only
  split <;> rfl

theorem showEvent_sheet (s : Sheet) : showEvent .warning (.sheet s) = "" := by
  unfold showEvent
  dsimp only
  split <;> rfl

theorem join_showEvent_rules (rs : List Rule) (events : List Event) :
    String.join ((rs.map Event.rule ++ events).map (showEvent .warning))
      = String.join (events.map (showEvent .warning)) := by
  induction rs with
  | nil => rfl
  | cons r rs ih =>
    rw [List.map_cons, List.cons_append, List.map_cons, String.join_cons, showEvent_rule, ih,
      String.empty_append]

variable {text : List Char} {encoding : String}

theorem execute_derives {s : Sheet}
    (hrun : Sheet.runFile files path encoding = .ok (Sheet.run text)) (h : Sheet.Derives text s)
    (c : Command) :
    execute files ⟨.warning, c, path, encoding⟩ = ⟨0, plainText (answer c path s), "", none⟩ := by
  have herrors : String.join ([Event.sheet s].map (showEvent .warning)) = "" := by
    rw [List.map_singleton, showEvent_sheet]
    rfl
  rw [execute, hrun, Sheet.run_derives h]
  dsimp only
  rw [join_showEvent_rules, herrors]

theorem execute_breaks {b : Breach} {k : Nat}
    (hrun : Sheet.runFile files path encoding = .ok (Sheet.run text)) (h : b.At text k)
    (c : Command) :
    execute files ⟨.warning, c, path, encoding⟩ = ⟨1, "",
      String.join ((b.report text k).texts.map fun said => plainText said ++ "\n"), none⟩ := by
  obtain ⟨s, -, hr⟩ := h.exists_run_eq
  rw [execute, hrun, hr]
  dsimp only
  rw [join_showEvent_rules, List.map_map]
  rfl

/-- What the two commands come to on a file with this text. Either both find the sheet, and one
prints it and the other counts its rules and declarations, or both say the same of what is wrong
and nothing else. -/
inductive Agree (path : String) (text : List Char) : Outcome → Outcome → Prop where
  | accepted {s : Sheet} {name : String} {n m : Nat} :
    Sheet.parse text = .ok s → Path.LastPart path.toList name.toList →
      text.count '\x7b' = n → text.count '\x7d' = n → text.count ';' = m → text.count ':' = m →
      Agree path text ⟨0, s.toText, "", none⟩
        ⟨0, "OK: " ++ plainText name ++ " (" ++ toString n ++ " rule(s), " ++ toString m
          ++ " declaration(s))\n", "", none⟩
  | rejected {a : Announcement} {errors : String} :
    Sheet.parse text = .error (.failed a) →
      errors = String.join (a.report.texts.map fun said => plainText said ++ "\n") →
      Agree path text ⟨1, "", errors, none⟩ ⟨1, "", errors, none⟩

/-- The two commands agree about every file in UTF-8. -/
theorem run_encode {dispatch : Dispatch} {arguments arguments' : List String} {t : List Char}
    (hprint : dispatch arguments = .ok ⟨30, .print, path, "utf-8"⟩)
    (hcheck : dispatch arguments' = .ok ⟨30, .check, path, "utf-8"⟩)
    (hfile : readBytes files path = .ok (Encoding.Utf8.encode t)) :
    Agree path (unifyNewlines t) (run dispatch files arguments)
      (run dispatch files arguments') := by
  have hrun : Sheet.runFile files path "utf-8" = .ok (Sheet.run (unifyNewlines t)) := by
    rw [Sheet.runFile, readSource_encode hfile]
    rfl
  have hcall {given : List String} {c : Command}
      (h : dispatch given = .ok ⟨.warning, c, path, "utf-8"⟩) :
      run dispatch files given = execute files ⟨.warning, c, path, "utf-8"⟩ := by
    rw [run, h]
  rw [hcall hprint, hcall hcheck]
  rcases Sheet.exists_at (unifyNewlines t) with ⟨s, hp⟩ | ⟨b, k, h⟩
  · have hs := Sheet.derives_of_parse hp
    obtain ⟨hopen, hclose, hsemicolon, hcolon⟩ := hs.count_marks
    rw [execute_derives hrun hs, execute_derives hrun hs, plainText_answer_check, answer,
      hs.inWords.escapeFree_toText.plainText_eq]
    exact .accepted hp (Path.lastPart_iff.2 rfl) hopen hclose hsemicolon hcolon
  · rw [execute_breaks hrun h, execute_breaks hrun h]
    exact .rejected h.parse_eq rfl

/-! ## Asking for a command -/

theorem parseLevel_default : parseLevel "WARNING" = .ok .warning := by
  have hupper : "WARNING".map Char.toUpper = "WARNING" := by
    rw [← String.toList_inj, String.toList_map]
    decide +kernel
  rw [parseLevel, hupper]
  rfl

theorem parseStart_name (c : Command) (path : String) :
    parseStart [c.name, path] = .ok (.warning, c, [path]) := by
  have hscope : parseScope none false [c.name, path] = .ok ⟨[], [c.name, path]⟩ := by
    cases c <;> rfl
  have hlevel : (Given.value? ⟨[], [c.name, path]⟩ "--log-level").getD ({} : Settings).logLevel
      = "WARNING" := rfl
  have hname : parseName c.name = .ok c := by
    cases c <;> rfl
  simp only [parseStart, hscope, hlevel, parseLevel_default, hname, bind, Except.bind]
  rfl

theorem parseCommand_path (c : Command) {bytes : List UInt8} (hoption : isOption path = false)
    (hnull : hasNull path = false) (hfile : files path = .file bytes) :
    parseCommand files c [path] = .ok (path, "utf-8") := by
  have hne : path ≠ "--" := by
    rintro rfl
    cases hoption
  have hoptions : parseOptions (Scope.options (some c)) true [path] = .ok ⟨[], [path]⟩ := by
    simp only [parseOptions, hne, hoption]
    rfl
  have hscope : parseScope (some c) true [path] = .ok ⟨[], [path]⟩ := by
    rw [parseScope, hoptions]
    rfl
  simp only [parseCommand, hscope, hnull, hfile, bind, Except.bind]
  rfl

/-- The name of the command and the path are enough. -/
theorem understand_name (c : Command) {bytes : List UInt8} (hoption : isOption path = false)
    (hnull : hasNull path = false) (hfile : files path = .file bytes) :
    understand files [c.name, path] = .ok ⟨.warning, c, path, "utf-8"⟩ := by
  simp only [understand, parseStart_name, parseCommand_path c hoption hnull hfile, bind,
    Except.bind]
  rfl

theorem run_encode_rule :
    let t := ['p', '\x7b', '\x7d', '\r']
    let files : Files := fun _ => .file (Encoding.Utf8.encode t)
    understand files ["show", "css/a.css"] = .ok ⟨30, .print, "css/a.css", "utf-8"⟩ ∧
      understand files ["check", "css/a.css"] = .ok ⟨30, .check, "css/a.css", "utf-8"⟩ ∧
      readBytes files "css/a.css" = .ok (Encoding.Utf8.encode t) ∧
      Agree "css/a.css" (unifyNewlines t) (run (understand files) files ["show", "css/a.css"])
        (run (understand files) files ["check", "css/a.css"]) := by
  intro t files
  have hoption : isOption "css/a.css" = false := by decide
  have hnull : hasNull "css/a.css" = false := by decide
  have hnormal : hasNull (Path.normal "css/a.css") = false := by decide
  have hasks (c : Command) :
      understand files [c.name, "css/a.css"] = .ok ⟨.warning, c, "css/a.css", "utf-8"⟩ :=
    understand_name c hoption hnull rfl
  have hfile : readBytes files "css/a.css" = .ok (Encoding.Utf8.encode t) := by
    simp only [readBytes, hnormal, Bool.false_eq_true, if_false, files]
  exact ⟨hasks .print, hasks .check, hfile, run_encode (hasks .print) (hasks .check) hfile⟩

end CommandLine

end Stylesheet
