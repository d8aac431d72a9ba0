import AlertPolicy.Settings

/-!
Command lines: a subcommand with its options, written `--name value` or `--name=value`. Options and
words are read from the left, and the first thing that cannot be understood makes the whole line a
usage error. An option is given at most once, except that the profile may be given both before and
after the subcommand, where the later one counts.
-/

namespace AlertPolicy

open Time

inductive Command where
  | run (policy : Option String) (tick : Option Duration) (format : Option ReportFormat)
      (once : Bool)
  | check (policy : Option String)
  | parse (expr : String)
  deriving DecidableEq

inductive Invocation where
  | help
  | version
  | usageError
  | command (profile : Option String) (c : Command)
  deriving DecidableEq

namespace Invocation

inductive Subcommand where
  | run
  | check
  | parse
  deriving DecidableEq, Repr

def Subcommand.ofName? : String → Option Subcommand
  | "run" => some run
  | "check" => some check
  | "parse" => some parse
  | _ => none

/-- What has been given to a subcommand so far. -/
structure Given where
  profile : Option String
  policy : Option String
  tick : Option Duration
  format : Option ReportFormat
  once : Bool
  word : Option String
  deriving DecidableEq

def Given.nothing : Given := ⟨none, none, none, none, false, none⟩

/-- An argument as it is looked at before it is given a meaning. -/
inductive Shape where
  /-- Two hyphens: all that follows are words. -/
  | escape
  | long (name : String) (value : Option String)
  | short (letters : List Char)
  | word (s : String)
  deriving DecidableEq, Repr

/-- A lone hyphen is a word. -/
def Shape.of (s : String) : Shape :=
  match s.toList with
  | ['-', '-'] => .escape
  | '-' :: '-' :: cs =>
      let value := match cs.dropWhile (· != '=') with
        | _ :: v => some (String.ofList v)
        | [] => none
      .long (String.ofList (cs.takeWhile (· != '='))) value
  | '-' :: c :: cs => .short (c :: cs)
  | _ => .word s

def Shape.isWord : Shape → Bool
  | .word _ => true
  | _ => false

/-- Takes the value of an option, if the subcommand has the option, it has not been given yet, and
the value can be used. -/
def Given.setOption? (c : Subcommand) (g : Given) (name value : String) : Option Given :=
  match name, c with
  | "profile", _ => if g.profile.isSome then none else some { g with profile := some value }
  | "policy", .run | "policy", .check =>
      if g.policy.isSome || value.isEmpty then none else some { g with policy := some value }
  | "tick", .run =>
      if g.tick.isSome then none
      else (Duration.parse? value).map fun d => { g with tick := some d }
  | "format", .run =>
      if g.format.isSome then none
      else (ReportFormat.parse value).toOption.map fun f => { g with format := some f }
  | _, _ => none

def isValueOption (c : Subcommand) (name : String) : Bool :=
  match name, c with
  | "profile", _ | "policy", .run | "policy", .check | "tick", .run | "format", .run => true
  | _, _ => false

/-- Takes a word: one is needed after `parse`, none is allowed elsewhere. -/
def Given.setWord? (c : Subcommand) (g : Given) (s : String) : Option Given :=
  if c = .parse && g.word.isNone then some { g with word := some s } else none

def Given.setWords? (c : Subcommand) (g : Given) : List String → Option Given
  | [] => some g
  | s :: ss => (g.setWord? c s).bind fun g => setWords? c g ss

/-- The command that is complete, under the profile given before the subcommand or the one given
after it. -/
def Given.finish (c : Subcommand) (profile : Option String) (g : Given) : Invocation :=
  let profile := g.profile.or profile
  match c, g.word with
  | .run, _ => .command profile (.run g.policy g.tick g.format g.once)
  | .check, _ => .command profile (.check g.policy)
  | .parse, some s => .command profile (.parse s)
  | .parse, none => .usageError

/-- Reads what follows a subcommand. -/
def readArguments (c : Subcommand) (profile : Option String) (g : Given) :
    List String → Invocation
  | [] => g.finish c profile
  | arg :: rest =>
      match Shape.of arg with
      | .escape =>
          match g.setWords? c rest with
          | some g => g.finish c profile
          | none => .usageError
      | .word s =>
          match g.setWord? c s with
          | some g => readArguments c profile g rest
          | none => .usageError
      | .short letters => if letters.head? == some 'h' then .help else .usageError
      | .long "help" none => .help
      | .long "once" none =>
          if c = .run && !g.once then readArguments c profile { g with once := true } rest
          else .usageError
      | .long name (some value) =>
          match g.setOption? c name value with
          | some g => readArguments c profile g rest
          | none => .usageError
      | .long name none =>
          if !isValueOption c name then .usageError
          else
            match rest with
            | value :: rest =>
                if !(Shape.of value).isWord then .usageError
                else
                  match g.setOption? c name value with
                  | some g => readArguments c profile g rest
                  | none => .usageError
            | [] => .usageError

/-- Reads what follows the word `help`: nothing, or the one subcommand that help is wanted on. -/
def readHelp : List String → Invocation
  | [] => .help
  | [name] => if name == "help" || (Subcommand.ofName? name).isSome then .help else .usageError
  | _ => .usageError

/-- Reads the arguments up to the subcommand, and then those after it. -/
def readTop (profile : Option String) : List String → Invocation
  | [] => .usageError
  | arg :: rest =>
      match Shape.of arg with
      | .escape => .usageError
      | .word "help" => readHelp rest
      | .word s =>
          match Subcommand.ofName? s with
          | some c => readArguments c profile .nothing rest
          | none => .usageError
      | .short letters =>
          if letters.head? == some 'h' then .help
          else if letters.head? == some 'V' then .version
          else .usageError
      | .long "help" none => .help
      | .long "version" none => .version
      | .long "profile" (some value) =>
          if profile.isSome then .usageError else readTop (some value) rest
      | .long "profile" none =>
          match rest with
          | value :: rest =>
              if profile.isSome || !(Shape.of value).isWord then .usageError
              else readTop (some value) rest
          | [] => .usageError
      | .long _ _ => .usageError

def read (args : List String) : Invocation := readTop none args

end Invocation

end AlertPolicy
