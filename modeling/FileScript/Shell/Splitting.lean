import FileScript.Shell.Pattern

/-!
# Splitting words into fields

What an expansion yields is split at separators, so that one word can become several fields, or
none. The separators are given by a variable; white space among them counts only once and not at the
ends.
-/

namespace FileScript.Shell

/-- How a stretch of an expanded word is split. -/
inductive Splitting where
  | never
  | atSeparators
  /-- Only between the arguments of the shell. -/
  | atArguments
  deriving DecidableEq, Repr, Inhabited

/-- A stretch of an expanded word. -/
structure Stretch where
  glyphs : List Glyph
  splitting : Splitting := .never
  deriving Repr, Inhabited

namespace Splitting

/-- Stands between the arguments of the shell. -/
def argumentEnd : Char := '\x00'

/-- The separators that are used when no others are asked for. -/
def standard : List Char := [' ', '\t', '\n']

/-- The fields that have been split off, last first, and the one that is going on, last glyph
first. -/
structure Progress where
  fields : List (List Glyph) := []
  field : List Glyph := []
  /-- Whether the last stretch was one that is split between arguments. -/
  afterArguments : Bool := false
  /-- Whether white space that separates has been seen in the stretch. -/
  inSpace : Bool := false

/-- Ends the field that is going on. -/
def Progress.cut (p : Progress) : Progress :=
  { p with fields := p.field.reverse :: p.fields, field := [] }

/-- Whether a glyph is one of some separators. -/
def separates (separators : List Char) : Glyph → Bool
  | .char c _ => c = argumentEnd || separators.contains c
  | .mark => false

/-- Whether a glyph separates as white space does. -/
def isSpace (g : Glyph) : Bool := separates standard g

/-- The glyphs after those that belong to a separator: white space around at most one separator of
another kind. -/
def afterSeparator (separators : List Char) (inSpace : Bool) : List Glyph → List Glyph
  | [] => []
  | g :: rest =>
    if !separates separators g then g :: rest
    else if isSpace g then afterSeparator separators inSpace rest
    else if inSpace then afterSeparator separators false rest
    else g :: rest

theorem length_afterSeparator (separators : List Char) (inSpace : Bool) (glyphs : List Glyph) :
    (afterSeparator separators inSpace glyphs).length ≤ glyphs.length := by
  induction glyphs generalizing inSpace with
  | nil => exact Nat.le_refl _
  | cons g rest ih =>
    unfold afterSeparator
    split
    · exact Nat.le_refl _
    · split
      · exact Nat.le_succ_of_le (ih inSpace)
      · split
        · exact Nat.le_succ_of_le (ih false)
        · exact Nat.le_refl _

/-- Splits a stretch at separators. -/
def splitStretch (separators : List Char) (onlyArguments : Bool) (p : Progress)
    (glyphs : List Glyph) : Progress :=
  match glyphs with
  | [] => p
  | g :: rest =>
    let separators := if onlyArguments then [] else separators
    if !separates separators g then
      splitStretch separators onlyArguments { p with field := g :: p.field } rest
    else
      let p := if p.afterArguments || onlyArguments then p else { p with inSpace := isSpace g }
      if p.field.isEmpty && p.inSpace then splitStretch separators onlyArguments p rest
      else if onlyArguments then splitStretch separators onlyArguments p.cut rest
      else splitStretch separators onlyArguments p.cut (afterSeparator separators p.inSpace rest)
termination_by glyphs.length
decreasing_by
  · simp
  · simp
  · simp
  · exact Nat.lt_succ_of_le (length_afterSeparator ..)

/-- The fields of a word. -/
def fields (separators : List Char) (word : List Stretch) : List (List Glyph) :=
  let final := word.foldl (fun (p : Progress × Bool) stretch =>
    match stretch.splitting with
    | .never => ({ p.1 with field := stretch.glyphs.reverse ++ p.1.field }, p.2)
    | .atSeparators =>
      let after := splitStretch separators false { p.1 with inSpace := false } stretch.glyphs
      ({ after with afterArguments := false }, false)
    | .atArguments =>
      let after := splitStretch separators true { p.1 with inSpace := false } stretch.glyphs
      ({ after with afterArguments := true }, true)) ({}, false)
  if final.1.field.isEmpty && !final.2 then final.1.fields.reverse
  else (final.1.field.reverse :: final.1.fields).reverse

/-- The texts of the fields of a line that is read into so many variables. The last one takes what
is left, without the white space at its end. -/
def lineFields (separators : List Char) (count : Nat) (glyphs : List Glyph) : List String :=
  (go (glyphs.length + 1) count (glyphs.dropWhile blankSeparator)).map Glyph.text
where
  /-- Whether a glyph is white space that separates. -/
  blankSeparator (g : Glyph) : Bool := separates separators g && isSpace g && !isLiteral g
  /-- Whether a glyph does not separate whatever it is. -/
  isLiteral : Glyph → Bool
    | .char _ isLiteral => isLiteral
    | .mark => true
  /-- The glyphs without the white space at their end. -/
  trimmed (glyphs : List Glyph) : List Glyph := (glyphs.reverse.dropWhile blankSeparator).reverse
  /-- Whether a glyph ends a field. -/
  ends (g : Glyph) : Bool := separates separators g && !isLiteral g
  /-- The glyphs after the separator with which they begin. -/
  afterOne (glyphs : List Glyph) : List Glyph :=
    let rest := glyphs.dropWhile blankSeparator
    match rest with
    | g :: more => if ends g then more.dropWhile blankSeparator else rest
    | [] => []
  /-- The fields of the rest of a line. -/
  go : Nat → Nat → List Glyph → List (List Glyph)
    | 0, _, _ | _, 0, _ | _, _, [] => []
    | fuel + 1, count + 1, glyphs =>
      let field := glyphs.takeWhile (!ends ·)
      let rest := afterOne (glyphs.drop field.length)
      if rest.isEmpty then [field]
      else if count = 0 then [trimmed glyphs]
      else field :: go fuel count rest

end Splitting

end FileScript.Shell
