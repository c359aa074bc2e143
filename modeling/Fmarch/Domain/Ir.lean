import Mathlib.Order.Basic

/-!
# The ability vocabulary

`ir.rs`: the closed, versioned set of primitive abilities, investigation modes and modifiers every
pack is written in.
-/

namespace Fmarch.Domain

/-- `IrAbility`: a flat tag; the investigation mode rides on the action template. -/
inductive IrAbility where
  | kill | protect | block | redirect | investigate | convert | mark | clear | grant | link
  | retaliate | badge | duel | itaShot | selfDestruct | visit | revealTown | voteDuel | veto | info
  deriving DecidableEq, Ord

inductive InvestigateMode where
  | parity | vanilla | neapolitan | gunsmith | killer | specialist | ptAccess | role | fullRole
  | track | watch | roleWatcher | roleGuard | securityGuard | voyeur | actionType | motion
  | priorMotion
  deriving DecidableEq, Ord

/-- `Modifier`: capability flags that adjust how an ability meets the precedence tables. -/
inductive Modifier where
  | strongman | ninja | loyal | disloyal | bodyguard | martyr | cpr | weak | lazy | loud
  | announcing | xShot | oddNight | evenNight | nonConsecutive | indecisive | uncooperative
  | roaming | disabledEndgame | compulsive | simultaneous | roleblockable | reflexive | personal
  | strongWilled | babysitter | hider
  deriving DecidableEq

end Fmarch.Domain
