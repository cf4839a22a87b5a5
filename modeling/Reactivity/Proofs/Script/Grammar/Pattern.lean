import Reactivity.Proofs.Script.Reader
import Reactivity.Script.Grammar.Pattern

namespace Reactivity.Script

open Reader

/-!
# Keys and patterns that are read are well formed

The readers of a grammar are written against the grammar of one round less. Each
statement here takes the grammar it is written against to be sound. A theorem with the
name of a reader says what that reader yields.
-/

/-- What the parts of the grammar yield is well formed and has the role of its place. -/
structure Grammar.IsSound
    (grammar : Grammar) :
    Prop where
  expression : ∀ context, (grammar.expression context).Yields (Node.Stands .expression)
  assignment : ∀ context, (grammar.assignment context).Yields (Node.Stands .expression)
  operation : ∀ context level, (grammar.operation context level).Yields (Node.Stands .expression)
  operand : ∀ context, (grammar.operand context).Yields (Node.Stands .expression)
  access : ∀ context, (grammar.access context).Yields (Node.Stands .expression)
  constructed : ∀ context, (grammar.constructed context).Yields (Node.Stands .expression)
  pattern : ∀ context, (grammar.pattern context).Yields (Node.Stands .part)
  statement :
    ∀ context placement, (grammar.statement context placement).Yields (Node.Stands .statement)

/-- The place of a missing child is well formed. -/
theorem Node.absent_stands :
    Node.absent.Stands .part :=
  ⟨rfl, rfl⟩

namespace Grammar.IsSound

variable {grammar : Grammar} (sound : grammar.IsSound)

include sound

/-- A key is well formed, computed or not. -/
theorem readKey
    (context : Context) :
    (grammar.readKey context).Yields (fun key => key.1.isWellFormed) := by
  refine .after (fun current => ?_)
  split
  · exact .after (fun _ => (Yields.leaf _ rfl).bind (fun _ fits => .pure fits.wellFormed))
  · exact .after (fun _ => (Yields.leaf _ rfl).bind (fun _ fits => .pure fits.wellFormed))
  · exact .after (fun _ => (Yields.leaf _ rfl).bind (fun _ fits => .pure fits.wellFormed))
  · exact .after (fun _ => (Yields.leaf _ rfl).bind (fun _ fits => .pure fits.wellFormed))
  · refine .after (fun _ => ((sound.assignment _).before "]").bind (fun key fits => ?_))
    exact .pure fits.wellFormed
  · exact .failure

/-- An initial value is well formed if there is one. -/
theorem readInitial
    (context : Context) :
    (grammar.readInitial context).Yields (fun values => ∀ value ∈ values, value.isWellFormed) := by
  refine .after (fun isThere => ?_)
  split
  · refine (sound.assignment context).bind (fun value fits => .pure ?_)
    simpa using fits.wellFormed
  · exact .pure (by simp)

/-- An item of a pattern is a part, with a default and without one. -/
theorem readElement
    (context : Context) :
    (grammar.readElement context).Yields (Node.Stands .part) := by
  refine .after (fun start => ?_)
  refine (sound.pattern context).bind (fun pattern patternFits => ?_)
  refine (sound.readInitial _).bind (fun values valuesFit => ?_)
  split
  · exact .pure patternFits
  · refine .finish _ rfl ?_
    simpa using ⟨patternFits.wellFormed, valuesFit⟩

omit sound in
theorem readRest
    {read : Reader Node}
    {role : Role}
    (yields : read.Yields (Node.Stands role))
    (close : String) :
    (Grammar.readRest close read).Yields (Node.Stands .part) := by
  refine .after (fun start => .after (fun _ => ?_))
  refine yields.bind (fun pattern fits => ?_)
  refine .after (fun isClosed => .after (fun _ => ?_))
  exact .finish _ rfl (by simpa using fits.wellFormed)

/-- A pattern of items is a part; its holes are well formed as well. -/
theorem readArrayPattern
    (context : Context) :
    (grammar.readArrayPattern context).Yields (Node.Stands .part) := by
  refine .after (fun start => .after (fun _ => ?_))
  refine Yields.bind (.untilSymbol (Node.Stands .part) ?_ grammar.bound "]") (fun items fit => ?_)
  · refine .after (fun isHole => ?_)
    split
    · exact .pure Node.absent_stands
    · refine .after (fun isRest => ?_)
      split
      · exact readRest (sound.pattern context) "]"
      · refine (sound.readElement context).bind (fun item fits => ?_)
        exact .after (fun _ => .pure fits)
  · exact .finish _ rfl (fun item member => (fit item member).wellFormed)

omit sound in
theorem readNamePattern
    (context : Context) :
    (Grammar.readNamePattern context).Yields (Node.Stands .part) :=
  .after (fun _ => (Yields.name context).bind (fun _ named => .identifier _ named))

/-- A property of a pattern is a part, also in its short form. -/
theorem readPatternProperty
    (context : Context) :
    (grammar.readPatternProperty context).Yields (Node.Stands .part) := by
  refine .after (fun current => ?_)
  refine (sound.readKey context).bind (fun key keyFits => ?_)
  refine .after (fun isLong => ?_)
  split
  · refine (sound.readElement context).bind (fun pattern fits => ?_)
    exact .finish _ rfl (by simpa using ⟨keyFits, fits.wellFormed⟩)
  · split
    · exact .failure
    · next named =>
        have isNamed := Cursor.isIdentifier_of_name? named
        refine (Yields.identifier _ isNamed).bind (fun pattern patternFits => ?_)
        refine (sound.readInitial _).bind (fun values valuesFit => ?_)
        split
        · exact .finish _ rfl (by simpa using ⟨keyFits, patternFits.wellFormed⟩)
        · have below : ∀ child ∈ pattern :: values, child.isWellFormed := by
            simpa using ⟨patternFits.wellFormed, valuesFit⟩
          refine (Yields.finish _ rfl below).bind (fun defaulted fits => ?_)
          exact .finish _ rfl (by simpa using ⟨keyFits, fits.wellFormed⟩)

/-- A pattern of properties is a part. -/
theorem readObjectPattern
    (context : Context) :
    (grammar.readObjectPattern context).Yields (Node.Stands .part) := by
  refine .after (fun start => .after (fun _ => ?_))
  refine Yields.bind (.untilSymbol (Node.Stands .part) ?_ grammar.bound "\x7d")
    (fun properties fit => ?_)
  · refine .after (fun isRest => ?_)
    split
    · exact readRest (readNamePattern context) "\x7d"
    · refine (sound.readPatternProperty context).bind (fun property fits => ?_)
      exact .after (fun _ => .pure fits)
  · exact .finish _ rfl (fun property member => (fit property member).wellFormed)

/-- A pattern is a part, whatever it binds. -/
theorem readPattern
    (context : Context) :
    (grammar.readPattern context).Yields (Node.Stands .part) := by
  refine .after (fun current => ?_)
  split
  · exact sound.readArrayPattern context
  · split
    · exact sound.readObjectPattern context
    · exact readNamePattern context

/-- The parameters of a function are a part of it. -/
theorem readParameters
    (context : Context) :
    (grammar.readParameters context).Yields (Node.Stands .part) := by
  refine .after (fun start => .after (fun _ => ?_))
  refine Yields.bind (.untilSymbol (Node.Stands .part) ?_ grammar.bound ")") (fun items fit => ?_)
  · refine .after (fun isRest => ?_)
    split
    · exact readRest (sound.pattern context) ")"
    · refine (sound.readElement context).bind (fun item fits => ?_)
      exact .after (fun _ => .pure fits)
  · exact .finish _ rfl (fun item member => (fit item member).wellFormed)

end Grammar.IsSound

end Reactivity.Script
