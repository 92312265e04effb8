import SampleSchema.CommandLine.Grammar
/-!
Reading the arguments of a command. Arguments are taken from the front: an
option takes what follows it, and what stands before the next option is shared
out among the positional parameters. Positional parameters take as many
arguments as they can, the first of them first, as long as enough are left for
the others.
-/

namespace SampleSchema.CommandLine

open Json

namespace Arity

/-- A number of arguments that an arity admits. -/
def admits (arity : Arity) (n : Nat) : Bool :=
  match arity with
  | .none => n == 0
  | one => n == 1
  | atMostOne => n ≤ 1
  | any => true
  | atLeastOne => 1 ≤ n
  | exactly k => n == k
  | remainder => 1 ≤ n

/-- A positional parameter can take arguments that are marked like this. The
separator may be among them and does not count. -/
def takesPlaces (arity : Arity) (marks : List Mark) : Bool :=
  match arity with
  | remainder =>
      match marks.dropWhile fun m => !m.isArgument && !m.isOption with
      | first :: _ => first.isArgument
      | [] => false
  | arity => !marks.any (·.isOption) && arity.admits (marks.filter (·.isArgument)).length

/-- How many of the arguments after an option it takes, if they are enough. -/
def takeAfter (arity : Arity) (marks : List Mark) : Option Nat :=
  let available := (marks.takeWhile (·.isArgument)).length
  match arity with
  | .none => some 0
  | one => if 1 ≤ available then some 1 else Option.none
  | atMostOne => some (min 1 available)
  | any => some available
  | atLeastOne => if 1 ≤ available then some available else Option.none
  | exactly k => if k ≤ available then some k else Option.none
  | remainder => if 1 ≤ available then some marks.length else Option.none

end Arity

def downFrom (n : Nat) : List Nat := (List.range (n + 1)).reverse

/-- Share arguments out among arities, in order and with the longest shares first. -/
def shareOut : List Arity → List Mark → Option (List Nat)
  | [], _ => some []
  | arity :: rest, marks =>
      (downFrom marks.length).findSome? fun n =>
        if arity.takesPlaces (marks.take n) then
          (shareOut rest (marks.drop n)).map (n :: ·)
        else none

/-- The shares of as many arities from the front as arguments are enough for. -/
def shares (arities : List Arity) (marks : List Mark) : List Nat :=
  ((downFrom arities.length).findSome? fun n => shareOut (arities.take n) marks).getD []

structure Reading where
  /-- The values by their keys. -/
  values : List (String × Value)
  /-- The positional parameters that have taken nothing yet. -/
  waiting : List Parameter
  /-- The names of the parameters that have taken something. -/
  taken : List String := []
  /-- Arguments that no parameter takes. -/
  extras : List String := []

/-- Without the first separator. -/
def dropSeparator (arguments : List String) : List String := arguments.erase "--"

def readChecked (p : Parameter) (argument : String) : Except Stop Value :=
  match p.readArgument argument with
  | none => .error (.refused (.invalidValue p.name argument))
  | some v => if p.accepts v then .ok v else .error (.refused (.invalidChoice p.name))

/-- Check a default that stands in for arguments. A text is read like one. -/
def readDefault (p : Parameter) : Except Stop Value :=
  match p.default with
  | .string s => readChecked p s
  | v => .ok v

def valueOf (p : Parameter) (arguments : List String) : Except Stop Value :=
  match p.arity, dropSeparator arguments with
  | .none, _ => .ok (.bool true)
  | .remainder, _ => .ok (.array (arguments.map .string))
  | .one, [a] => readChecked p a
  | .atMostOne, [a] => readChecked p a
  | .atMostOne, [] => if p.isOption then .ok .null else readDefault p
  | .any, [] =>
      if p.isOption then .ok (.array [])
      else
        let v := match p.default with
          | .null => .array []
          | v => v
        if p.accepts v then .ok v else .error (.refused (.invalidChoice p.name))
  | _, as => do
      let vs ← as.mapM (readChecked p)
      return .array vs

namespace Reading

/-- Keep a value for a parameter. -/
def take (r : Reading) (p : Parameter) (arguments : List String) : Except Stop Reading := do
  let v ← valueOf p arguments
  return { r with values := putMember p.key v r.values, taken := p.name :: r.taken }

def takeShares (r : Reading) : List Parameter → List Nat → List String → Except Stop Reading
  | p :: ps, n :: ns, arguments => do
      let r ← r.take p (arguments.take n)
      r.takeShares ps ns (arguments.drop n)
  | _, _, _ => .ok r

/-- Share the arguments at the front out among the positional parameters.
Returns how many have been taken. -/
def takePositionals (r : Reading) (tokens : List (String × Mark)) :
    Except Stop (Reading × Nat) := do
  let ns := shares (r.waiting.map (·.arity)) (tokens.map (·.2))
  let after ← r.takeShares r.waiting ns (tokens.map (·.1))
  return ({ after with waiting := after.waiting.drop ns.length }, ns.foldl (· + ·) 0)

def perform (r : Reading) (action : Action) (arguments : List String) : Except Stop Reading :=
  match action with
  | .help => .error .help
  | .set p => r.take p arguments

def performAll (r : Reading) : List Action → Except Stop Reading
  | [] => .ok r
  | action :: rest => do
      let r ← r.perform action []
      r.performAll rest

end Reading

/-- The options that one argument gives: switches, and then one more option with
its value, if it has one. -/
structure Cluster where
  switches : List Action
  name : String
  action : Action
  value : Option String

/-- Take an option with a value apart. If the option takes nothing and starts
with a single dash, the value consists of the letters of further options. The
fuel bounds them by the length of the value. -/
def cluster (g : Grammar) : Nat → String → Action → List Char → Except Stop Cluster
  | fuel, name, action, value =>
      let refused : Except Stop Cluster :=
        .error (.refused (.unexpectedValue name (String.ofList value)))
      match fuel, action.arity.takeAfter [.argument], name.toList.drop 1, value with
      | _, some 1, _, _ => .ok ⟨[], name, action, some (String.ofList value)⟩
      | fuel + 1, some 0, second :: _, c :: rest =>
          let next := String.ofList ['-', c]
          match g.options.lookup next with
          | some nextAction =>
              if second = '-' then refused
              else if rest.isEmpty then .ok ⟨[action], next, nextAction, none⟩
              else do
                let later ← cluster g fuel next nextAction rest
                return { later with switches := action :: later.switches }
          | none => refused
      | _, _, _, _ => refused

namespace Reading

/-- Read an option and what it takes of the arguments after it. Returns how many
of them it has taken. -/
def takeOption (g : Grammar) (r : Reading) (argument : String) (o : OptionUse)
    (after : List (String × Mark)) : Except Stop (Reading × Nat) :=
  match o.action with
  | none => .ok ({ r with extras := r.extras ++ [argument] }, 0)
  | some action => do
      let c ← match o.value with
        | some value => cluster g value.length o.name action value.toList
        | none => pure ⟨[], o.name, action, none⟩
      match c.value with
      | some value => do
          let r ← r.performAll c.switches
          let r ← r.perform c.action [value]
          return (r, 0)
      | none =>
          match c.action.arity.takeAfter (after.map (·.2)) with
          | none => .error (.refused (.missingValue c.name))
          | some n => do
              let r ← r.performAll c.switches
              let r ← r.perform c.action ((after.take n).map (·.1))
              return (r, n)

end Reading

/-- Read all arguments. The fuel bounds the turns by the number of arguments,
since every turn but the last takes at least one. -/
def readTokens (g : Grammar) : Nat → Reading → List (String × Mark) → Except Stop Reading
  | 0, r, _ => .ok r
  | fuel + 1, r, tokens =>
      if !tokens.any (·.2.isOption) then do
        let (r, n) ← r.takePositionals tokens
        return { r with extras := r.extras ++ (tokens.drop n).map (·.1) }
      else match tokens with
        | (argument, .option o) :: after => do
            let (r, n) ← r.takeOption g argument o after
            readTokens g fuel r (after.drop n)
        | tokens => do
            let (r, n) ← r.takePositionals tokens
            if n = 0 then
              let left := tokens.takeWhile fun t => !t.2.isOption
              readTokens g fuel { r with extras := r.extras ++ left.map (·.1) }
                (tokens.drop left.length)
            else readTokens g fuel r (tokens.drop n)

/-- The parameters that have to be given and have not been. -/
def missing (g : Grammar) (r : Reading) : List String :=
  (g.parameters.filter fun p => p.required && !r.taken.contains p.name).map (·.name)

def keepsText (key text : String) (values : List (String × Value)) : Bool :=
  match member? key values with
  | some (.string s) => s == text
  | _ => false

/-- Read the texts that are defaults of parameters that have not been given, as
far as they are kept. -/
def settleDefaults (taken : List String) :
    List Parameter → List (String × Value) → Except Stop (List (String × Value))
  | [], values => .ok values
  | p :: rest, values =>
      match p.default with
      | .string s =>
          if taken.contains p.name || !keepsText p.key s values then
            settleDefaults taken rest values
          else match p.readArgument s with
            | none => .error (.refused (.invalidValue p.name s))
            | some v => settleDefaults taken rest (putMember p.key v values)
      | _ => settleDefaults taken rest values

/-- The values of a command's parameters, and the arguments that none takes. -/
structure Parsed where
  values : List (String × Value)
  extras : List String

/-- Before any argument is read, every parameter has its default. Of parameters
that are kept under the same key the first counts. -/
def Grammar.defaults (g : Grammar) : List (String × Value) :=
  g.parameters.foldl (fun vs p =>
    if (member? p.key vs).isSome then vs else putMember p.key p.default vs) []

def Grammar.parse (g : Grammar) (arguments : List String) : Except Stop Parsed := do
  let tokens ← (g.markAll arguments).mapError .refused
  let start : Reading := { values := g.defaults, waiting := g.positionals }
  let r ← readTokens g (tokens.length + 1) start tokens
  match missing g r with
  | [] => do
      let values ← settleDefaults r.taken g.parameters r.values
      return { values, extras := r.extras }
  | names => .error (.refused (.missingParameters names))

end SampleSchema.CommandLine
