import GlobeUtil.Args.Manager

/-!
# The configuration file grammar

`GetConfigOptions` reads a configuration stream line by line. A line is cut at its first
`#` and trimmed; what is left is empty, a `[section]` header — which sets the prefix of the
following keys to `section.` — or a `key=value` option, stored as
`(prefix + trim(key), trim(value))`. A leading `-`, a line with no `=`, and an
`rpcpassword` key on a line with a `#` are errors, reported with the line number.

The code is modelled line by line (`configLine`) and over the stream (`configLines`);
the grammar is then stated again in the words of its specification — `lineText`,
`IsHeader`, `LineAccepted`, `optionOf`, and the prefix of the most recent header,
`prefixAfter` — and `configLine_spec` says once what one line does in those words. Every
property of the whole stream is an induction over the lines that cites it.

## Main definitions

* `getLines`: the lines `std::getline` reads from a stream
* `configLine`, `configLines`, `getConfigOptions`: `GetConfigOptions`
* `LineAccepted`, `optionOf`, `prefixAfter`: the grammar, as the specification states it

## Main results

* `configLine_spec`: what one line does
* `getConfigOptions_grammar`: the stream is accepted exactly when every line is; then the
  options are one pair per option line, in order; otherwise the error names the first
  rejected line
-/

namespace GlobeUtil

/-- The characters `GetConfigOptions` trims: `" \t\r\n"`. -/
def configPattern : Str := [' ', '\t', '\r', '\n']

/-- The out-parameters of `GetConfigOptions`: `error`, `options` and `sections`. -/
structure ConfigParse where
  error : Str := []
  options : List (Str × Str) := []
  sections : List SectionInfo := []
  deriving DecidableEq, Repr

/-- A line without its comment: the text before the first `#`. -/
def cutComment (str : Str) : Str :=
  match Str.find '#' str with
  | some pos => str.take pos
  | none => str

/-- The first words of every error `GetConfigOptions` reports. -/
def lineError (linenr : Nat) (rest : Str) : Str :=
  "parse error on line ".toList ++ (toString linenr).toList ++ rest

/-- The dispatch of one line of `GetConfigOptions` on its text `str` (cut at the first `#`
and trimmed): `.ok` with the prefix for the next line and the out-parameters after this one,
or `.error` with the message. -/
def configText (filepath pre : Str) (linenr : Nat) (usedHash : Bool) (str : Str)
    (p : ConfigParse) : Except Str (Str × ConfigParse) :=
  if str = [] then .ok (pre, p)
  else if str.head? = some '[' ∧ str.getLast? = some ']' then
    let sec := (str.drop 1).take (str.length - 2)
    .ok (sec ++ ['.'], { p with sections := p.sections ++ [⟨sec, filepath, linenr⟩] })
  else if str.head? = some '-' then
    .error (lineError linenr (": ".toList ++ str ++
      ", options in configuration file must be specified without leading -".toList))
  else
    match Str.find '=' str with
    | some pos =>
      let name := pre ++ trimString (str.take pos) configPattern
      let value := trimString (str.drop (pos + 1)) configPattern
      if usedHash ∧ "rpcpassword".toList <:+: name then
        .error (lineError linenr
          ", using # in rpcpassword can be ambiguous and should be avoided".toList)
      else
        let p := { p with options := p.options ++ [(name, value)] }
        match Str.rfind '.' name with
        | some pos =>
          if pre.length ≤ pos then
            .ok (pre, { p with sections := p.sections ++ [⟨name.take pos, filepath, linenr⟩] })
          else .ok (pre, p)
        | none => .ok (pre, p)
    | none =>
      .error (lineError linenr (": ".toList ++ str ++
        if 2 ≤ str.length ∧ str.take 2 = "no".toList then
          ", if you intended to specify a negated option, use ".toList ++ str ++ "=1 instead".toList
        else []))

/-- One pass of the loop of `GetConfigOptions`: note whether the line has a `#`, cut and
trim it, and dispatch on what is left. -/
def configLine (filepath pre : Str) (linenr : Nat) (line : Str) (p : ConfigParse) :
    Except Str (Str × ConfigParse) :=
  configText filepath pre linenr (Str.find '#' line).isSome
    (trimString (cutComment line) configPattern) p

/-- The loop of `GetConfigOptions` over the lines of a stream, from prefix `pre` and line
number `linenr`. -/
def configLines (filepath : Str) : List Str → Str → Nat → ConfigParse → Bool × ConfigParse
  | [], _, _, p => (true, p)
  | line :: lines, pre, linenr, p =>
    match configLine filepath pre linenr line p with
    | .ok (pre', p') => configLines filepath lines pre' (linenr + 1) p'
    | .error e => (false, { p with error := e })

/-- `while (std::getline(stream, str))`, from the text read into the line `cur` so far: a
line feed ends a line and is dropped; at the end of the stream the text after the last line
feed is a line when it is not empty. -/
def getLinesFrom (cur : Str) : Str → List Str
  | [] => if cur = [] then [] else [cur]
  | c :: rest => if c = '\n' then cur :: getLinesFrom [] rest else getLinesFrom (cur ++ [c]) rest

/-- The lines `std::getline` reads from a stream's text. -/
def getLines (text : Str) : List Str := getLinesFrom [] text

/-- `GetConfigOptions`: the lines as `std::getline` returns them, the file's name, and the
out-parameters as the caller passes them. -/
def getConfigOptions (lines : List Str) (filepath : Str) (p : ConfigParse) : Bool × ConfigParse :=
  configLines filepath lines [] 1 p

/-! ## The grammar, as specified -/

section Grammar

/-- A text without the spaces, tabs, carriage returns and line feeds at either end. -/
def trimSpaces (s : Str) : Str :=
  let space := fun c : Char => decide (c = ' ' ∨ c = '\t' ∨ c = '\r' ∨ c = '\n')
  ((s.dropWhile space).reverse.dropWhile space).reverse

/-- A line cut at its first `#` and trimmed. -/
def lineText (l : Str) : Str :=
  trimSpaces (l.takeWhile (· ≠ '#'))

/-- A section header: begins with `[` and ends with `]`. -/
def IsHeader (t : Str) : Prop :=
  t.head? = some '[' ∧ t.getLast? = some ']'

instance (t : Str) : Decidable (IsHeader t) := inferInstanceAs (Decidable (_ ∧ _))

/-- The text between the brackets of a header. -/
def headerName (t : Str) : Str :=
  (t.drop 1).dropLast

/-- The prefix after one more line: a header's name and a `.`, else unchanged. -/
def nextPrefix (P l : Str) : Str :=
  if IsHeader (lineText l) then headerName (lineText l) ++ ['.'] else P

/-- The prefix after the lines `ls`, read from `P`: the most recent header's. -/
def prefixAfter (P : Str) (ls : List Str) : Str :=
  ls.foldl nextPrefix P

/-- The key of an option line: the trimmed text before its first `=`, after the prefix. -/
def optionName (P t : Str) : Str :=
  P ++ trimSpaces (t.takeWhile (· ≠ '='))

/-- A line the grammar accepts under the prefix `P`. -/
def LineAccepted (P l : Str) : Prop :=
  lineText l = [] ∨ IsHeader (lineText l) ∨
    ((lineText l).head? ≠ some '-' ∧ '=' ∈ lineText l ∧
      ('#' ∈ l → ¬ "rpcpassword".toList <:+: optionName P (lineText l)))

instance (P l : Str) : Decidable (LineAccepted P l) :=
  inferInstanceAs (Decidable (_ ∨ _ ∨ _))

/-- The option a line stands for under the prefix `P`. -/
def optionOf (P l : Str) : Option (Str × Str) :=
  if lineText l = [] ∨ IsHeader (lineText l) then none
  else some (optionName P (lineText l),
    trimSpaces (((lineText l).dropWhile (· ≠ '=')).drop 1))

/-- Line `i` of a stream is accepted under the prefix of the most recent header before it. -/
def AcceptedAt (P : Str) (lines : List Str) (i : Nat) : Prop :=
  LineAccepted (prefixAfter P (lines.take i)) (lines.getD i [])

/-- The options a stream stands for, read from prefix `P`: one per option line, in order. -/
def optionsFrom (P : Str) (lines : List Str) : List (Str × Str) :=
  (List.range lines.length).filterMap fun i =>
    optionOf (prefixAfter P (lines.take i)) (lines.getD i [])

@[simp] theorem acceptedAt_cons_zero (P l : Str) (ls : List Str) :
    AcceptedAt P (l :: ls) 0 ↔ LineAccepted P l := Iff.rfl

@[simp] theorem acceptedAt_cons_succ (P l : Str) (ls : List Str) (i : Nat) :
    AcceptedAt P (l :: ls) (i + 1) ↔ AcceptedAt (nextPrefix P l) ls i := Iff.rfl

@[simp] theorem prefixAfter_nil (P : Str) : prefixAfter P [] = P := rfl

@[simp] theorem prefixAfter_cons (P l : Str) (ls : List Str) :
    prefixAfter P (l :: ls) = prefixAfter (nextPrefix P l) ls := rfl

theorem optionsFrom_cons (P l : Str) (ls : List Str) :
    optionsFrom P (l :: ls) = (optionOf P l).toList ++ optionsFrom (nextPrefix P l) ls := by
  simp only [optionsFrom, List.length_cons, List.range_succ_eq_map, List.filterMap_cons,
    List.filterMap_map, List.take_zero, prefixAfter_nil, List.getD_cons_zero, Function.comp_def,
    List.take_succ_cons, prefixAfter_cons, List.getD_cons_succ]
  cases optionOf P l <;> rfl

end Grammar

/-! ## One line -/

section Line

theorem cutComment_eq (l : Str) : cutComment l = l.takeWhile (· ≠ '#') := by
  unfold cutComment
  split
  · next h => exact Str.take_of_find h
  · next h => exact (Str.takeWhile_of_find_none h).symm

theorem isSome_find_iff (c : Char) (l : Str) : (Str.find c l).isSome = true ↔ c ∈ l := by
  cases h : Str.find c l with
  | none => simpa using Str.find_eq_none_iff.1 h
  | some i =>
    obtain ⟨a, b, rfl, -, -⟩ := Str.find_eq_some_iff.1 h
    simp

/-- The code's `TrimString` with `" \t\r\n"` is the specification's trim. -/
theorem trimString_configPattern (s : Str) : trimString s configPattern = trimSpaces s := by
  have hspace : (fun c => decide (c ∈ configPattern)) =
      fun c : Char => decide (c = ' ' ∨ c = '\t' ∨ c = '\r' ∨ c = '\n') := by
    funext c
    simp [configPattern]
  rw [trimString, hspace, List.rdropWhile, trimSpaces]

theorem header_substr (t : Str) : (t.drop 1).take (t.length - 2) = headerName t := by
  simp [headerName, List.dropLast_eq_take, Nat.sub_sub]

theorem configLine_eq (filepath P : Str) (n : Nat) (l : Str) (p : ConfigParse) :
    configLine filepath P n l p = configText filepath P n (decide ('#' ∈ l)) (lineText l) p := by
  rw [configLine, cutComment_eq, lineText, ← trimString_configPattern]
  congr 1
  cases h : (Str.find '#' l).isSome <;> simp_all [← isSome_find_iff]

section Branches

variable (filepath P : Str) (n : Nat) (hash : Bool) {t : Str} (p : ConfigParse)

theorem configText_empty : configText filepath P n hash [] p = .ok (P, p) := by
  simp [configText]

theorem configText_header (h0 : t ≠ []) (hh : IsHeader t) :
    configText filepath P n hash t p = .ok (headerName t ++ ['.'],
      { p with sections := p.sections ++ [⟨headerName t, filepath, n⟩] }) := by
  unfold IsHeader at hh
  rw [configText, if_neg h0, if_pos hh, header_substr]

theorem configText_dash (h0 : t ≠ []) (hh : ¬ IsHeader t) (hd : t.head? = some '-') :
    configText filepath P n hash t p = .error (lineError n (": ".toList ++ t ++
      ", options in configuration file must be specified without leading -".toList)) := by
  unfold IsHeader at hh
  rw [configText, if_neg h0, if_neg hh, if_pos hd]

theorem configText_no_eq (h0 : t ≠ []) (hh : ¬ IsHeader t) (hd : t.head? ≠ some '-')
    (he : '=' ∉ t) : ∃ rest, configText filepath P n hash t p = .error (lineError n (':' :: rest)) := by
  unfold IsHeader at hh
  rw [configText, if_neg h0, if_neg hh, if_neg hd, Str.find_eq_none_iff.2 he]
  exact ⟨_, rfl⟩

theorem configText_rpcpassword (h0 : t ≠ []) (hh : ¬ IsHeader t) (hd : t.head? ≠ some '-')
    {pos : Nat} (hf : Str.find '=' t = some pos)
    (hr : hash = true ∧ "rpcpassword".toList <:+: optionName P t) :
    configText filepath P n hash t p = .error (lineError n
      ", using # in rpcpassword can be ambiguous and should be avoided".toList) := by
  unfold IsHeader at hh
  rw [configText, if_neg h0, if_neg hh, if_neg hd, hf]
  simp only [optionName, ← trimString_configPattern, ← Str.take_of_find hf] at hr
  simp only [hr, and_self, if_true]

theorem configText_option (h0 : t ≠ []) (hh : ¬ IsHeader t) (hd : t.head? ≠ some '-')
    {pos : Nat} (hf : Str.find '=' t = some pos)
    (hr : ¬ (hash = true ∧ "rpcpassword".toList <:+: optionName P t)) :
    ∃ p', configText filepath P n hash t p = .ok (P, p') ∧
      p'.options = p.options ++ [(optionName P t,
        trimSpaces ((t.dropWhile (· ≠ '=')).drop 1))] ∧
      p'.sections = p.sections ++ match Str.rfind '.' (optionName P t) with
        | some pos' => if P.length ≤ pos' then [⟨(optionName P t).take pos', filepath, n⟩] else []
        | none => [] := by
  unfold IsHeader at hh
  rw [configText, if_neg h0, if_neg hh, if_neg hd, hf]
  simp only [optionName, ← trimString_configPattern, ← Str.take_of_find hf,
    ← Str.drop_of_find hf] at hr ⊢
  rw [if_neg hr]
  split
  · split
    · exact ⟨_, rfl, rfl, rfl⟩
    · exact ⟨_, rfl, rfl, by simp⟩
  · exact ⟨_, rfl, rfl, by simp⟩

end Branches

/-- **What one line's text can do**: an empty text keeps everything; a header sets the
prefix and records its section; a text with a leading `-`, without `=`, or with an
`rpcpassword` key after a `#` is an error naming the line; any other appends its option
and, for a key with a `.` past the prefix, a section. -/
theorem configText_cases (filepath P : Str) (n : Nat) (hash : Bool) (t : Str) (p : ConfigParse) :
    (t = [] ∧ configText filepath P n hash t p = .ok (P, p)) ∨
    (t ≠ [] ∧ IsHeader t ∧ configText filepath P n hash t p = .ok (headerName t ++ ['.'],
      { p with sections := p.sections ++ [⟨headerName t, filepath, n⟩] })) ∨
    (t ≠ [] ∧ ¬ IsHeader t ∧ (t.head? = some '-' ∨ '=' ∉ t ∨
        (hash = true ∧ "rpcpassword".toList <:+: optionName P t)) ∧
      ∃ rest, configText filepath P n hash t p = .error (lineError n rest) ∧
        (rest.head? = some ':' ∨ rest.head? = some ',')) ∨
    (t ≠ [] ∧ ¬ IsHeader t ∧ t.head? ≠ some '-' ∧ '=' ∈ t ∧
      ¬ (hash = true ∧ "rpcpassword".toList <:+: optionName P t) ∧
      ∃ p', configText filepath P n hash t p = .ok (P, p') ∧
        p'.options = p.options ++ [(optionName P t,
          trimSpaces ((t.dropWhile (· ≠ '=')).drop 1))] ∧
        p'.sections = p.sections ++ match Str.rfind '.' (optionName P t) with
          | some pos' => if P.length ≤ pos' then [⟨(optionName P t).take pos', filepath, n⟩] else []
          | none => []) := by
  by_cases h0 : t = []
  · exact .inl ⟨h0, h0 ▸ configText_empty filepath P n hash p⟩
  by_cases hh : IsHeader t
  · exact .inr (.inl ⟨h0, hh, configText_header filepath P n hash p h0 hh⟩)
  by_cases hd : t.head? = some '-'
  · exact .inr (.inr (.inl ⟨h0, hh, .inl hd, _, configText_dash filepath P n hash p h0 hh hd,
      by simp⟩))
  by_cases he : '=' ∈ t
  · obtain ⟨pos, hf⟩ : ∃ pos, Str.find '=' t = some pos := Option.ne_none_iff_exists'.1
      (fun hn => Str.find_eq_none_iff.1 hn he)
    by_cases hr : hash = true ∧ "rpcpassword".toList <:+: optionName P t
    · exact .inr (.inr (.inl ⟨h0, hh, .inr (.inr hr), _,
        configText_rpcpassword filepath P n hash p h0 hh hd hf hr, by simp⟩))
    · exact .inr (.inr (.inr ⟨h0, hh, hd, he, hr,
        configText_option filepath P n hash p h0 hh hd hf hr⟩))
  · obtain ⟨rest, hrest⟩ := configText_no_eq filepath P n hash p h0 hh hd he
    exact .inr (.inr (.inl ⟨h0, hh, .inr (.inl he), _, hrest, by simp⟩))

/-- **What one line does**: an accepted line moves the prefix as `nextPrefix` says and
appends the option it stands for; a rejected one is an error that names its line number. -/
theorem configLine_spec (filepath P : Str) (n : Nat) (l : Str) (p : ConfigParse) :
    (LineAccepted P l ∧ ∃ p', configLine filepath P n l p = .ok (nextPrefix P l, p') ∧
        p'.options = p.options ++ (optionOf P l).toList ∧
        ∃ more, p'.sections = p.sections ++ more) ∨
    (¬ LineAccepted P l ∧ ∃ rest, configLine filepath P n l p = .error (lineError n rest) ∧
        (rest.head? = some ':' ∨ rest.head? = some ',')) := by
  rw [configLine_eq]
  unfold LineAccepted nextPrefix optionOf
  generalize hb : decide ('#' ∈ l) = hash
  have hbi : hash = true ↔ '#' ∈ l := by rw [← hb, decide_eq_true_iff]
  generalize lineText l = t
  rcases configText_cases filepath P n hash t p with ⟨rfl, h⟩ | ⟨h0, hh, h⟩ |
    ⟨h0, hh, hbad, rest, h, hr⟩ | ⟨h0, hh, hd, he, hr, p', h, hopt, hsec⟩
  · exact .inl ⟨.inl rfl, p, by simp [h, IsHeader], by simp, [], by simp⟩
  · exact .inl ⟨.inr (.inl hh), _, by rw [h, if_pos hh], by simp [h0, hh], _, rfl⟩
  · refine .inr ⟨?_, rest, h, hr⟩
    simp only [h0, hh, false_or, not_and]
    intro hd he hrpc
    rcases hbad with hbad | hbad | ⟨hhash, hbad⟩
    · exact hd hbad
    · exact hbad he
    · exact hrpc (hbi.1 hhash) hbad
  · exact .inl ⟨.inr (.inr ⟨hd, he, fun h hi => hr ⟨hbi.2 h, hi⟩⟩), p', by rw [h, if_neg hh],
      by simp [hopt, h0, hh], _, hsec⟩

end Line

/-! ## The whole stream -/

section Stream

theorem forall_lt_succ_iff {Q : Nat → Prop} {n : Nat} :
    (∀ i < n + 1, Q i) ↔ Q 0 ∧ ∀ i < n, Q (i + 1) :=
  ⟨fun h => ⟨h 0 (by omega), fun i hi => h (i + 1) (by omega)⟩,
   fun ⟨h0, h⟩ i hi => match i with
    | 0 => h0
    | i + 1 => h i (by omega)⟩

/-- The loop over the lines, from any prefix and line number: acceptance is line by line,
the options are those the lines stand for, and an error names the first rejected line. -/
theorem configLines_spec (filepath : Str) :
    ∀ (lines : List Str) (P : Str) (n : Nat) (p : ConfigParse),
      ((configLines filepath lines P n p).1 = true ↔ ∀ i < lines.length, AcceptedAt P lines i) ∧
      ((configLines filepath lines P n p).1 = true →
        (configLines filepath lines P n p).2.options = p.options ++ optionsFrom P lines) ∧
      ((configLines filepath lines P n p).1 = false →
        ∃ i < lines.length, (∀ j < i, AcceptedAt P lines j) ∧ ¬ AcceptedAt P lines i ∧
          ∃ rest, (configLines filepath lines P n p).2.error = lineError (n + i) rest ∧
            (rest.head? = some ':' ∨ rest.head? = some ','))
  | [], P, n, p => ⟨by simp [configLines], fun _ => by simp [configLines, optionsFrom],
      fun h => by simp [configLines] at h⟩
  | l :: ls, P, n, p => by
    rcases configLine_spec filepath P n l p with ⟨hl, p', hp', hopt, -⟩ | ⟨hl, rest, hp', hrest⟩
    · obtain ⟨ih₁, ih₂, ih₃⟩ := configLines_spec filepath ls (nextPrefix P l) (n + 1) p'
      simp only [configLines, hp', List.length_cons, forall_lt_succ_iff, acceptedAt_cons_zero,
        acceptedAt_cons_succ, hl, true_and, optionsFrom_cons]
      refine ⟨ih₁, fun h => by rw [ih₂ h, hopt, List.append_assoc], fun h => ?_⟩
      obtain ⟨i, hi, hbefore, hat, rest, herr, hr⟩ := ih₃ h
      refine ⟨i + 1, by omega, forall_lt_succ_iff.2 ⟨hl, fun j hj => hbefore j (by omega)⟩, hat,
        rest, by rw [herr, Nat.add_right_comm, Nat.add_assoc], hr⟩
    · have hr : configLines filepath (l :: ls) P n p = (false, { p with error := lineError n rest }) := by
        simp [configLines, hp']
      rw [hr]
      refine ⟨⟨Bool.noConfusion, fun h => absurd (h 0 (by simp)) hl⟩, Bool.noConfusion,
        fun _ => ⟨0, by simp, fun j hj => absurd hj (Nat.not_lt_zero j), hl, rest, rfl, hrest⟩⟩

/-- **The configuration file grammar.** `GetConfigOptions` accepts a stream exactly when it
accepts every line under the prefix of the most recent header before it; it then appends one
option per option line, in order; otherwise its error names the first rejected line, counted
from 1 over every line. -/
theorem getConfigOptions_grammar (lines : List Str) (filepath : Str) (p : ConfigParse) :
    ((getConfigOptions lines filepath p).1 = true ↔ ∀ i < lines.length, AcceptedAt [] lines i) ∧
    ((getConfigOptions lines filepath p).1 = true →
      (getConfigOptions lines filepath p).2.options = p.options ++ optionsFrom [] lines) ∧
    ((getConfigOptions lines filepath p).1 = false →
      ∃ i < lines.length, (∀ j < i, AcceptedAt [] lines j) ∧ ¬ AcceptedAt [] lines i ∧
        ∃ rest, (getConfigOptions lines filepath p).2.error =
            "parse error on line ".toList ++ (toString (i + 1)).toList ++ rest ∧
          (rest.head? = some ':' ∨ rest.head? = some ',')) := by
  obtain ⟨h₁, h₂, h₃⟩ := configLines_spec filepath lines [] 1 p
  refine ⟨h₁, h₂, fun h => ?_⟩
  obtain ⟨i, hi, hbefore, hat, rest, herr, hr⟩ := h₃ h
  exact ⟨i, hi, hbefore, hat, rest, by rw [getConfigOptions, herr, Nat.add_comm, lineError], hr⟩

example : getConfigOptions ["a=1", "", "[main]", " b = 2 # c"] "f" {} =
    (true, { options := [("a", "1"), ("main.b", "2")], sections := [⟨"main", "f", 3⟩] }) := by
  decide

end Stream

/-! ## The sections a stream records

`ReadConfigStream` stores an option under the section `InterpretKey` finds before the first
`.` of its key, while `GetConfigOptions` records a section from a header, or from the last
`.` of a key past the prefix. For a key with a single `.` the two agree: under no header the
last `.` is the first; under a header the single `.` is the one the header's prefix ends
with, and the header recorded that section. -/

section Sections

/-- The prefix is empty, or a recorded header's name and a `.`. -/
def PrefixRecorded (P : Str) (sections : List SectionInfo) : Prop :=
  P = [] ∨ ∃ h, P = h ++ ['.'] ∧ h ∈ sections.map SectionInfo.name

/-- Every option key with a single `.` has the section before it recorded. -/
def DotsRecorded (sections : List SectionInfo) (options : List (Str × Str)) : Prop :=
  ∀ o ∈ options, ∀ sec r, o.1 = sec ++ '.' :: r → '.' ∉ sec → '.' ∉ r →
    sec ∈ sections.map SectionInfo.name

theorem DotsRecorded.mono {sections sections' : List SectionInfo} {options : List (Str × Str)}
    (h : DotsRecorded sections options) (hs : sections <+: sections') :
    DotsRecorded sections' options := fun o ho sec r he hs' hr =>
  List.map_subset _ hs.subset (h o ho sec r he hs' hr)

/-- The option a line appends has its single-`.` section recorded. -/
theorem option_section_recorded {P key : Str} {sections : List SectionInfo} {filepath : Str}
    {n : Nat} (hP : PrefixRecorded P sections) {sec r : Str} (he : P ++ key = sec ++ '.' :: r)
    (hs : '.' ∉ sec) (hr : '.' ∉ r) :
    sec ∈ (sections ++ match Str.rfind '.' (P ++ key) with
      | some pos' => if P.length ≤ pos' then [⟨(P ++ key).take pos', filepath, n⟩] else []
      | none => []).map SectionInfo.name := by
  rw [he, Str.rfind_split '.' sec r hr]
  rcases hP with rfl | ⟨h, rfl, hmem⟩
  · simp
  · have he' : sec ++ '.' :: r = h ++ '.' :: key := by rw [← he]; simp
    obtain ⟨rfl, -⟩ := Str.split_unique he' hs hr
    rw [List.map_append]
    exact List.mem_append_left _ hmem

/-- **One accepted line** keeps the prefix a recorded header's, and the single-`.` sections
of all options so far recorded; it only appends sections. -/
theorem configText_recorded {filepath P P' : Str} {n : Nat} {hash : Bool} {t : Str}
    {p p' : ConfigParse} (h : configText filepath P n hash t p = .ok (P', p'))
    (hP : PrefixRecorded P p.sections) (hD : DotsRecorded p.sections p.options) :
    PrefixRecorded P' p'.sections ∧ DotsRecorded p'.sections p'.options ∧
      p.sections <+: p'.sections := by
  rcases configText_cases filepath P n hash t p with ⟨-, h'⟩ | ⟨-, -, h'⟩ | ⟨-, -, -, _, h', -⟩ |
    ⟨-, -, -, -, -, _, h', hopt, hsec⟩ <;> rw [h'] at h <;> cases h
  · exact ⟨hP, hD, List.prefix_refl _⟩
  · exact ⟨.inr ⟨_, rfl, by simp⟩, hD.mono (List.prefix_append _ _), List.prefix_append _ _⟩
  · have hpre : p.sections <+: p'.sections := hsec ▸ List.prefix_append _ _
    refine ⟨hP.imp_right fun ⟨hdr, he, hmem⟩ => ⟨hdr, he, List.map_subset _ hpre.subset hmem⟩,
      fun o ho sec r heq hs hr' => ?_, hpre⟩
    rw [hopt, List.mem_append, List.mem_singleton] at ho
    rcases ho with ho | rfl
    · exact (hD.mono hpre) o ho sec r heq hs hr'
    · rw [hsec]; exact option_section_recorded hP heq hs hr'

/-- Over a whole stream, accepted or not: the single-`.` sections of all options are
recorded, and sections are only appended. -/
theorem configLines_recorded (filepath : Str) :
    ∀ (lines : List Str) (P : Str) (n : Nat) (p : ConfigParse),
      PrefixRecorded P p.sections → DotsRecorded p.sections p.options →
      DotsRecorded (configLines filepath lines P n p).2.sections
          (configLines filepath lines P n p).2.options ∧
        p.sections <+: (configLines filepath lines P n p).2.sections
  | [], _, _, _, _, hD => ⟨hD, List.prefix_refl _⟩
  | l :: ls, P, n, p, hP, hD => by
    simp only [configLines]
    split
    · next P' p' hl =>
      rw [configLine_eq] at hl
      obtain ⟨hP', hD', hpre⟩ := configText_recorded hl hP hD
      obtain ⟨h₁, h₂⟩ := configLines_recorded filepath ls P' (n + 1) p' hP' hD'
      exact ⟨h₁, hpre.trans h₂⟩
    · exact ⟨hD, List.prefix_refl _⟩

/-- `GetConfigOptions` records the section of every single-`.` key it appends, and keeps the
sections it was given. -/
theorem getConfigOptions_recorded (lines : List Str) (filepath : Str) (sections : List SectionInfo) :
    DotsRecorded (getConfigOptions lines filepath { sections := sections }).2.sections
        (getConfigOptions lines filepath { sections := sections }).2.options ∧
      sections <+: (getConfigOptions lines filepath { sections := sections }).2.sections :=
  configLines_recorded filepath lines [] 1 _ (.inl rfl) (by simp [DotsRecorded])

end Sections

end GlobeUtil
