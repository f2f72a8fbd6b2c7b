import GlobeUtil.Config.Options

/-!
# Writing a configuration file

What `GetConfigOptions` reads back. A file written as one `key=value` line per option of
the default section, then, for each section, a `[name]` header and one line per option of
that section, is read back whole, as its options in order, those of a section under the
key `name.key` (`getConfigOptions_configDoc`). What the writer has to avoid is what the
grammar gives a meaning to: a `#` anywhere, an `=` in a key, white space at either end of a
key or a value, a key that starts with `-` or `[`, and a `#` in a section name; and a line
feed anywhere, since `std::getline` would split the line there. The file is written as its
lines, each followed by a line feed, and read through `std::getline` (`getLines_flatten`).

Each kind of line is read once (`optionLine_read`, `headerLine_read`): its text survives the
comment cut and the trim, and the grammar of `Config.Options` accepts it. The loop is then
followed line by line through `configLine_spec`.

## Main definitions

* `WritableOption`, `optionLine`, `headerLine`: an option that can be written, and the lines
* `ConfigDoc`: a configuration file, with its lines, its text and its options

## Main results

* `getConfigOptions_configDoc`: a written file is accepted and read back as its options
-/

namespace GlobeUtil

/-- A text with no character of `configPattern` at either end. -/
def Trimmed (s : Str) : Prop :=
  (∀ c ∈ s.head?, c ∉ configPattern) ∧ ∀ c ∈ s.getLast?, c ∉ configPattern

instance (s : Str) : Decidable (Trimmed s) := inferInstanceAs (Decidable (_ ∧ _))

/-- An option `GetConfigOptions` reads back from its line: no `#` and no line feed, no `=` in
the key, key and value trimmed, and a key that starts neither with `-` nor with `[`. -/
@[mk_iff] structure WritableOption (o : Str × Str) : Prop where
  key_no_hash : '#' ∉ o.1
  value_no_hash : '#' ∉ o.2
  key_no_eq : '=' ∉ o.1
  key_no_newline : '\n' ∉ o.1
  value_no_newline : '\n' ∉ o.2
  key_trimmed : Trimmed o.1
  value_trimmed : Trimmed o.2
  key_no_dash : o.1.head? ≠ some '-'
  key_no_bracket : o.1.head? ≠ some '['

instance (o : Str × Str) : Decidable (WritableOption o) :=
  decidable_of_iff _ (writableOption_iff o).symm

/-- The line `key=value` of an option. -/
def optionLine (o : Str × Str) : Str := o.1 ++ '=' :: o.2

/-- The line `[name]` of a section header. -/
def headerLine (name : Str) : Str := '[' :: name ++ [']']

/-- A configuration file: the options of the default section, then sections with theirs. -/
structure ConfigDoc where
  top : List (Str × Str)
  sections : List (Str × List (Str × Str))
  deriving DecidableEq, Repr

namespace ConfigDoc

/-- The lines a configuration file is written as. -/
def lines (d : ConfigDoc) : List Str :=
  d.top.map optionLine ++ d.sections.flatMap fun sec => headerLine sec.1 :: sec.2.map optionLine

/-- The text of a configuration file: each line followed by a line feed. -/
def text (d : ConfigDoc) : Str :=
  (d.lines.map (· ++ ['\n'])).flatten

/-- The options a configuration file stands for: a section's under `name.key`. -/
def options (d : ConfigDoc) : List (Str × Str) :=
  d.top ++ d.sections.flatMap fun sec => sec.2.map fun o => (sec.1 ++ '.' :: o.1, o.2)

/-- A file every option and section name of which can be written: a section name holds no
`#` and no line feed. -/
def WellFormed (d : ConfigDoc) : Prop :=
  (∀ o ∈ d.top, WritableOption o) ∧
    ∀ sec ∈ d.sections, '#' ∉ sec.1 ∧ '\n' ∉ sec.1 ∧ ∀ o ∈ sec.2, WritableOption o

instance (d : ConfigDoc) : Decidable d.WellFormed := inferInstanceAs (Decidable (_ ∧ _))

end ConfigDoc

/-! ## One line -/

theorem trimSpaces_eq_self {s : Str} (h : Trimmed s) : trimSpaces s = s := by
  rw [← trimString_configPattern]
  have hdrop : s.dropWhile (fun c => decide (c ∈ configPattern)) = s := by
    cases s with
    | nil => rfl
    | cons c t => exact List.dropWhile_cons_of_neg (by simpa using h.1 c rfl)
  rw [trimString, hdrop]
  rcases List.eq_nil_or_concat s with rfl | ⟨t, c, rfl⟩
  · rfl
  · rw [List.concat_eq_append]
    exact List.rdropWhile_concat_neg (fun c => decide (c ∈ configPattern)) t c
      fun hc => h.2 c (by simp) (of_decide_eq_true hc)

theorem getLast?_optionLine (o : Str × Str) :
    (optionLine o).getLast? = some (o.2.getLast?.getD '=') := by
  rw [optionLine, List.getLast?_append]
  simp [List.getLast?_cons]

theorem getLast?_headerLine (name : Str) : (headerLine name).getLast? = some ']' := by
  exact List.getLast?_concat _

theorem trimmed_optionLine {o : Str × Str} (h : WritableOption o) : Trimmed (optionLine o) := by
  obtain ⟨k, v⟩ := o
  have hk := h.key_trimmed
  have hv := h.value_trimmed
  constructor
  · intro c hc
    cases k with
    | nil => cases hc; decide
    | cons c' k => exact hk.1 c hc
  · intro c hc
    obtain rfl := Option.some.inj ((getLast?_optionLine (k, v)).symm.trans hc)
    cases hv' : v.getLast? with
    | none => decide
    | some c' => exact hv.2 c' hv'

/-- A list with no `c` is all its own `takeWhile (· ≠ c)`. -/
theorem takeWhile_ne_eq_self {c : Char} {l : Str} (h : c ∉ l) : l.takeWhile (· ≠ c) = l :=
  List.takeWhile_eq_self_iff.2 fun _ hx => decide_eq_true fun hxe => h (hxe ▸ hx)

/-- **An option line is read as its option**: its text is the line itself, the grammar accepts
it under any prefix, it keeps the prefix, and it stands for the option under the prefix. -/
theorem optionLine_read {o : Str × Str} (h : WritableOption o) (P : Str) :
    LineAccepted P (optionLine o) ∧ nextPrefix P (optionLine o) = P ∧
      optionOf P (optionLine o) = some (P ++ o.1, o.2) := by
  have hhash : '#' ∉ optionLine o := by simp [optionLine, h.key_no_hash, h.value_no_hash]
  have htext : lineText (optionLine o) = optionLine o := by
    rw [lineText, takeWhile_ne_eq_self hhash, trimSpaces_eq_self (trimmed_optionLine h)]
  have hhead : (optionLine o).head? ≠ some '[' ∧ (optionLine o).head? ≠ some '-' := by
    obtain ⟨k, v⟩ := o
    cases k with
    | nil => exact ⟨by simp [optionLine], by simp [optionLine]⟩
    | cons c k => exact ⟨h.key_no_bracket, h.key_no_dash⟩
  have hnh : ¬ IsHeader (optionLine o) := fun hh => hhead.1 hh.1
  have hne : optionLine o ≠ [] := by simp [optionLine]
  have hkey : (optionLine o).takeWhile (· ≠ '=') = o.1 := by
    rw [optionLine, List.takeWhile_append_of_pos (List.takeWhile_eq_self_iff.1
      (takeWhile_ne_eq_self h.key_no_eq))]
    simp
  have hval : ((optionLine o).dropWhile (· ≠ '=')).drop 1 = o.2 := by
    rw [optionLine, List.dropWhile_append_of_pos (List.takeWhile_eq_self_iff.1
      (takeWhile_ne_eq_self h.key_no_eq))]
    simp
  refine ⟨.inr (.inr ⟨?_, ?_, fun h' => absurd h' hhash⟩), ?_, ?_⟩
  · rw [htext]; exact hhead.2
  · rw [htext]; simp [optionLine]
  · simp only [nextPrefix, htext, if_neg hnh]
  · simp only [optionOf, htext, hne, hnh, or_self, if_false, optionName, hkey, hval,
      trimSpaces_eq_self h.key_trimmed, trimSpaces_eq_self h.value_trimmed]

/-- **A header line is read as its section**: the grammar accepts it, it stands for no option,
and the prefix after it is the section's name and a `.`. -/
theorem headerLine_read {name : Str} (h : '#' ∉ name) (P : Str) :
    LineAccepted P (headerLine name) ∧ nextPrefix P (headerLine name) = name ++ ['.'] ∧
      optionOf P (headerLine name) = none := by
  have htext : lineText (headerLine name) = headerLine name := by
    have hhash : '#' ∉ headerLine name := by simp [headerLine, h]
    rw [lineText, takeWhile_ne_eq_self hhash, trimSpaces_eq_self ⟨fun c hc => by cases hc; decide,
      fun c hc => by rw [getLast?_headerLine] at hc; cases hc; decide⟩]
  have hh : IsHeader (headerLine name) := ⟨rfl, getLast?_headerLine name⟩
  refine ⟨.inr (.inl (by rw [htext]; exact hh)), ?_, ?_⟩
  · simp only [nextPrefix, htext, if_pos hh]
    simp [headerName, headerLine]
  · simp only [optionOf, htext, hh, or_true, if_true]

/-! ## The whole file -/

section File

variable (filepath : Str)

/-- An accepted line moves the loop on to the next line. -/
theorem configLines_cons_of_accepted {P l : Str} {n : Nat} {p : ConfigParse} (ls : List Str)
    (hl : LineAccepted P l) :
    ∃ p', configLines filepath (l :: ls) P n p = configLines filepath ls (nextPrefix P l) (n + 1) p' ∧
      p'.options = p.options ++ (optionOf P l).toList := by
  rcases configLine_spec filepath P n l p with ⟨-, p', hp', hopt, -⟩ | ⟨hl', -⟩
  · exact ⟨p', by simp only [configLines, hp'], hopt⟩
  · exact absurd hl hl'

/-- The option lines of a section are read as its options under the prefix. -/
theorem configLines_optionLines {P : Str} :
    ∀ {opts : List (Str × Str)} (ls : List Str) {n : Nat} {p : ConfigParse},
      (∀ o ∈ opts, WritableOption o) →
      ∃ p', configLines filepath (opts.map optionLine ++ ls) P n p =
          configLines filepath ls P (n + opts.length) p' ∧
        p'.options = p.options ++ opts.map fun o => (P ++ o.1, o.2)
  | [], ls, n, p, _ => ⟨p, rfl, by simp⟩
  | o :: opts, ls, n, p, h => by
    obtain ⟨hacc, hnext, hopt⟩ := optionLine_read (h o (List.mem_cons_self _ _)) P
    obtain ⟨p₁, h₁, hp₁⟩ :=
      configLines_cons_of_accepted filepath (n := n) (p := p) (opts.map optionLine ++ ls) hacc
    obtain ⟨p₂, h₂, hp₂⟩ :=
      configLines_optionLines (P := P) ls (n := n + 1) (p := p₁)
        fun o' ho' => h o' (List.mem_cons_of_mem _ ho')
    refine ⟨p₂, ?_, by simp [hp₂, hp₁, hopt]⟩
    rw [List.map_cons, List.cons_append, h₁, hnext, h₂, List.length_cons, Nat.add_right_comm,
      Nat.add_assoc]

/-- The sections, each a header and its option lines, are read as their options. -/
theorem configLines_sections {P : Str} :
    ∀ {secs : List (Str × List (Str × Str))} {n : Nat} {p : ConfigParse},
      (∀ sec ∈ secs, '#' ∉ sec.1 ∧ '\n' ∉ sec.1 ∧ ∀ o ∈ sec.2, WritableOption o) →
      ∃ p', configLines filepath (secs.flatMap fun sec => headerLine sec.1 :: sec.2.map optionLine)
          P n p = (true, p') ∧
        p'.options = p.options ++ secs.flatMap fun sec => sec.2.map fun o => (sec.1 ++ '.' :: o.1, o.2)
  | [], n, p, _ => ⟨p, rfl, by simp⟩
  | sec :: secs, n, p, h => by
    obtain ⟨hname, -, hopts⟩ := h sec (List.mem_cons_self _ _)
    obtain ⟨hacc, hnext, hopt⟩ := headerLine_read hname P
    obtain ⟨p₁, h₁, hp₁⟩ := configLines_cons_of_accepted filepath (n := n) (p := p)
      (sec.2.map optionLine ++ secs.flatMap fun sec => headerLine sec.1 :: sec.2.map optionLine) hacc
    obtain ⟨p₂, h₂, hp₂⟩ := configLines_optionLines filepath (P := sec.1 ++ ['.'])
      (secs.flatMap fun sec => headerLine sec.1 :: sec.2.map optionLine) (n := n + 1) (p := p₁) hopts
    obtain ⟨p₃, h₃, hp₃⟩ := configLines_sections (P := sec.1 ++ ['.'])
      (n := n + 1 + sec.2.length) (p := p₂) fun s hs => h s (List.mem_cons_of_mem _ hs)
    refine ⟨p₃, ?_, by simp [hp₃, hp₂, hp₁, hopt]⟩
    rw [List.flatMap_cons, List.cons_append, h₁, hnext, h₂, h₃]

/-- A line without a line feed, followed by one, is read as one line. -/
theorem getLinesFrom_append_newline {l : Str} (hl : '\n' ∉ l) (rest : Str) :
    ∀ cur, getLinesFrom cur (l ++ '\n' :: rest) = (cur ++ l) :: getLines rest := by
  induction l with
  | nil => intro cur; simp [getLinesFrom, getLines]
  | cons c l ih =>
    intro cur
    have hc : c ≠ '\n' := fun h => hl (h ▸ List.mem_cons_self _ _)
    rw [List.cons_append, getLinesFrom, if_neg hc, ih (fun h => hl (List.mem_cons_of_mem _ h))]
    simp

/-- `std::getline` reads back lines written each with a line feed, where none holds one. -/
theorem getLines_flatten {ls : List Str} (h : ∀ l ∈ ls, '\n' ∉ l) :
    getLines (ls.map (· ++ ['\n'])).flatten = ls := by
  induction ls with
  | nil => rfl
  | cons l ls ih =>
    rw [List.map_cons, List.flatten_cons, List.append_assoc, List.singleton_append, getLines,
      getLinesFrom_append_newline (h l (List.mem_cons_self _ _)),
      ih fun l' hl' => h l' (List.mem_cons_of_mem _ hl')]
    rfl

/-- No line of a well-formed file holds a line feed. -/
theorem newline_not_mem_lines {d : ConfigDoc} (hd : d.WellFormed) : ∀ l ∈ d.lines, '\n' ∉ l := by
  have hopt : ∀ {o}, WritableOption o → '\n' ∉ optionLine o := fun h => by
    simp [optionLine, h.key_no_newline, h.value_no_newline]
  simp only [ConfigDoc.lines, List.mem_append, List.mem_map, List.mem_flatMap, List.mem_cons]
  rintro l (⟨o, ho, rfl⟩ | ⟨sec, hsec, rfl | ⟨o, ho, rfl⟩⟩)
  · exact hopt (hd.1 o ho)
  · simp [headerLine, (hd.2 sec hsec).2.1]
  · exact hopt ((hd.2 sec hsec).2.2 o ho)

/-- **A written configuration file is read back**: `GetConfigOptions` reads its text into its
lines, accepts them, and appends its options, in order, those of a section under `name.key`. -/
theorem getConfigOptions_configDoc (d : ConfigDoc) (hd : d.WellFormed) (p : ConfigParse) :
    (getConfigOptions (getLines d.text) filepath p).1 = true ∧
      (getConfigOptions (getLines d.text) filepath p).2.options = p.options ++ d.options := by
  rw [ConfigDoc.text, getLines_flatten (newline_not_mem_lines hd)]
  obtain ⟨p₁, h₁, hp₁⟩ := configLines_optionLines filepath (P := [])
    (d.sections.flatMap fun sec => headerLine sec.1 :: sec.2.map optionLine) (n := 1) (p := p) hd.1
  obtain ⟨p₂, h₂, hp₂⟩ := configLines_sections filepath (P := [])
    (n := 1 + d.top.length) (p := p₁) hd.2
  rw [getConfigOptions, ConfigDoc.lines, h₁, h₂]
  exact ⟨rfl, by simp [hp₂, hp₁, ConfigDoc.options]⟩

/-- `a=1`, then `[main]` and `b=2`, is read back as `a` and `main.b`. -/
theorem getConfigOptions_configDoc_main :
    (getConfigOptions (getLines (ConfigDoc.text ⟨[("a", "1")], [("main", [("b", "2")])]⟩)) "f"
      {}).2.options =
      [("a".toList, "1".toList), ("main.b".toList, "2".toList)] :=
  (getConfigOptions_configDoc "f" ⟨[("a", "1")], [("main", [("b", "2")])]⟩ (by decide) {}).2.trans rfl

end File

end GlobeUtil
