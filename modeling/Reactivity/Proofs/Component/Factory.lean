import Reactivity.Proofs.Component.Shell

namespace Reactivity.Component

open Script

/-!
# Factory function

The factory function of a component is a function declaration, exported or not, with the
statements of the component as its body.
-/

/-- A function declaration with some statements as its body. -/
inductive IsDeclared
    (statements : List Node) :
    Node →
    Prop where
  | intro
      {head : FunctionHead}
      (isDeclaration : head.isDeclaration)
      (role bodyRole : Role)
      (span bodySpan : Span)
      (parameters : Node)
      (directives : List String) :
      IsDeclared statements
        (.mk (.function head) role span
          [parameters, .mk (.body directives) bodyRole bodySpan statements])

/-- A factory function with some statements as its body, exported if that is wished. -/
inductive IsFactory
    (options : Options)
    (statements : List Node) :
    Node →
    Prop where
  | plain
      {function : Node}
      (isPlain : options.exportDefault = false)
      (declared : IsDeclared statements function) :
      IsFactory options statements function
  | exported
      {function : Node}
      (isExported : options.exportDefault = true)
      (declared : IsDeclared statements function)
      (span : Span) :
      IsFactory options statements (.mk .exportDefault .statement span [function])

/-- The shell with some statements as its body is a factory function. -/
theorem isFactory_withBody
    {options : Options}
    {shell : Node}
    (isShell : IsShellStatement options shell)
    (statements : List Node) :
    IsFactory options statements (withBody statements shell) := by
  cases isShell with
  | plain isPlain isShell =>
      cases isShell
      exact .plain isPlain (.intro rfl _ _ _ _ _ _)
  | exported isExported isShell span =>
      cases isShell
      exact .exported isExported (.intro rfl _ _ _ _ _ _) span

end Reactivity.Component
