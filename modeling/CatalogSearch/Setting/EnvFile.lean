import CatalogSearch.Setting.Environment
import CatalogSearch.Text.Blank
/-!
Files of environment variables: one assignment a line, with comments, quotes, escapes and references to
other variables. Reading stops at the first line in error and keeps what came before it.
-/
namespace CatalogSearch.EnvFile

inductive Scan where
  | plain
  | blank
  | escape
  | strong
  | strongEscape
  | weak
  | weakEscape
deriving DecidableEq, Repr

def Scan.next (c : Char) : Scan → Option Scan
  | .blank =>
    if c = '#' then none
    else if c = '\\' then some .escape
    else if c = '"' then some .weak
    else if c = '\'' then some .strong
    else some .plain
  | .escape => some .plain
  | .plain =>
    if Text.isBlank c ∧ c ≠ '\n' ∧ c ≠ '\r' then some .blank
    else if c = '\\' then some .escape
    else if c = '"' then some .weak
    else if c = '\'' then some .strong
    else some .plain
  | .weak => some (if c = '\\' then .weakEscape else if c = '"' then .plain else .weak)
  | .weakEscape => some .weak
  | .strong => some (if c = '\\' then .strongEscape else if c = '\'' then .plain else .strong)
  | .strongEscape => some .strong

def dropLine (s : List Char) : List Char := (s.dropWhile (· != '\n')).drop 1

/-- One line without its comment and the text after it; line ends inside quotes do not end it. None if the
text ends inside of something that is still open. -/
def line? (scan : Scan) : List Char → Option (List Char × List Char)
  | [] => if scan = .plain then some ([], []) else none
  | c :: rest =>
    match scan.next c with
    | none => some ([], dropLine rest)
    | some scan =>
      if c = '\n' ∧ scan = .plain then some ([], rest)
      else (line? scan rest).map fun (line, after) => (c :: line, after)

theorem length_dropLine (s : List Char) : (dropLine s).length ≤ s.length - 1 := by
  have h : (s.dropWhile (· != '\n')).length ≤ s.length := (List.dropWhile_suffix _).length_le
  simp only [dropLine, List.length_drop]
  omega

theorem length_line? {scan : Scan} {s line after : List Char} (h : line? scan s = some (line, after)) :
    after.length ≤ s.length - 1 := by
  induction s generalizing scan line with
  | nil =>
    simp only [line?] at h
    split at h <;> simp_all
  | cons c rest ih =>
    simp only [line?] at h
    split at h
    · simp only [Option.some.injEq, Prod.mk.injEq] at h
      have := length_dropLine rest
      simp only [← h.2, List.length_cons]
      omega
    · split at h
      · simp_all
      · obtain ⟨⟨l, a⟩, hr, he⟩ := Option.map_eq_some_iff.1 h
        simp only [Prod.mk.injEq] at he
        obtain ⟨rfl, rfl⟩ := he
        have := ih hr
        simp only [List.length_cons]
        omega

inductive Mode where
  | plain
  | ended
  | escape
  | strong
  | name (read : List Char)
  | braced (read : List Char)
deriving DecidableEq, Repr

def isNameChar (c : Char) : Bool := c.isAlphanum || 0x80 ≤ c.toNat

def escaped? (c : Char) : Option Char :=
  if c = 'n' then some '\n' else if ['\\', '\'', '"', '$', ' '].contains c then some c else none

def closes (weak : Bool) : Mode → Bool
  | .strong => false
  | .braced _ => false
  | _ => !weak

/-- The value written, inside weak quotes or not. Strong quotes keep everything; weak ones keep blanks. After
a blank outside of quotes only a comment may follow. -/
def value? (env : Environment) (mode : Mode) (weak : Bool) : List Char → Option (List Char)
  | [] =>
    if closes weak mode then
      match mode with
      | .name read => some (lookUp read)
      | _ => some []
    else none
  | c :: rest =>
    let keep (cs : List Char) (mode : Mode) : Option (List Char) := (value? env mode weak rest).map (cs ++ ·)
    match mode with
    | .ended => if c = ' ' ∨ c = '\t' then keep [] .ended else if c = '#' then some [] else none
    | .escape => (escaped? c).bind fun c => keep [c] .plain
    | .strong => if c = '\'' then keep [] .plain else keep [c] .strong
    | .name read =>
      if isNameChar c then keep [] (.name (read ++ [c]))
      else if c = '\x7b' ∧ read = [] then keep [] (.braced [])
      else if c = '$' then keep (lookUp read) (.name [])
      else keep (lookUp read ++ [c]) .plain
    | .braced read => if c = '\x7d' then keep (lookUp read) .plain else keep [] (.braced (read ++ [c]))
    | .plain =>
      if c = '$' then keep [] (.name [])
      else if c = '\\' then keep [] .escape
      else if c = '"' then value? env .plain (!weak) rest
      else if weak then keep [c] .plain
      else if c = '\'' then keep [] .strong
      else if c = ' ' ∨ c = '\t' then keep [] .ended
      else keep [c] .plain
where
  lookUp (name : List Char) : List Char := ((Table.find? env (String.ofList name)).getD "").toList

def isKeyStart (c : Char) : Bool := c.isAlpha || c == '_'

def isKeyChar (c : Char) : Bool := c.isAlphanum || c == '_' || c == '.'

def key? : List Char → Option (List Char × List Char)
  | [] => none
  | c :: rest =>
    if isKeyStart c then some (c :: rest.takeWhile isKeyChar, Text.trimLeft (rest.dropWhile isKeyChar))
    else none

def assignment? (line : List Char) : Option (List Char × List Char) := do
  let (key, rest) ← key? line
  match rest with
  | '=' :: value => pure (key, Text.trimLeft value)
  | _ =>
    if key ≠ "export".toList then none
    let (key, rest) ← key? rest
    match rest with
    | '=' :: value => pure (key, Text.trimLeft value)
    | _ => none

def isComment (s : List Char) : Bool := (Text.trimLeft s).head? == some '#'

def take? (env : Environment) (line : List Char) : Option Environment := do
  let line := Text.trim line
  if line.isEmpty || isComment line then pure env
  else
    let (key, text) ← assignment? line
    let value ← if text.isEmpty || isComment text then pure [] else value? env .plain false text
    pure (env.add (String.ofList key) (String.ofList value))

/-- The variables after the lines of a file. Those that are set keep their values. -/
def lines (env : Environment) (s : List Char) : Environment :=
  if hs : s = [] then env
  else if isComment (s.takeWhile (· != '\n')) then
    have := length_dropLine s
    have := List.length_pos_iff.2 hs
    lines env (dropLine s)
  else
    match h : line? .plain s with
    | none => env
    | some (line, after) =>
      have := length_line? h
      have := List.length_pos_iff.2 hs
      match take? env line with
      | none => env
      | some env => lines env after
termination_by s.length

def load (env : Environment) (text : String) : Environment :=
  match text.toList with
  | '\ufeff' :: rest => lines env rest
  | s => lines env s

end CatalogSearch.EnvFile
