import Redline.FileTree.Change
import Redline.Shell.Program
import Redline.Shell.Script

/-!
# Running scripts

A script runs its pipelines in order. The commands of a pipeline run one after the other, each with
the output of the one before it as its input. Redirections send the streams of a command elsewhere.
A command that does not exist, or whose redirections fail, has an exit code of its own.
-/

namespace Redline.Shell

open Redline.Text

/-- The state of a running script. -/
structure Machine where
  /-- The name under which it complains. -/
  name : String := "sh"
  /-- The file tree. -/
  tree : FileTree
  /-- The directory in which the script runs. -/
  here : TreePath
  /-- The part of the standard input that is still to be read. -/
  input : List UInt8
  /-- What has been written to the standard output. -/
  out : List UInt8 := []
  /-- What has been written to the error output. -/
  err : List UInt8 := []
  /-- The variables. -/
  bindings : List (List Char × List Char) := []
  /-- The exit code of the last command. -/
  status : Nat := 0
  /-- The time that has passed, in nanoseconds. -/
  elapsed : Nat := 0
  /-- How the script has ended, if it has. -/
  ending : Option Ending := none

/-- The number under which a script can be sent a signal. -/
def scriptNumber : List Char := ['4', '2', '4', '2']

/-! ## Words -/

namespace Machine

/-- The value of a parameter. -/
def valueOf (m : Machine) (name : List Char) : List Char :=
  if name = ['$'] then scriptNumber
  else if name = ['?'] then (toString m.status).toList
  else if name = ['0'] then m.name.toList
  else if name = ['#'] then ['0']
  else match m.bindings.lookup name with
    | some value => value
    | none => if name = "PWD".toList then (Route.text m.here).toList else []

/-- The characters of a part of a word; `none` stands for a cut. -/
def charsOf (m : Machine) : Piece → List (Option Char)
  | .plain text => text.map some
  | .parameter name true => (m.valueOf name).map some
  | .parameter name false => (m.valueOf name).map fun c ↦ if isBlank c then none else some c

/-- The parts between the cuts, given the part read so far. -/
def cutAt (part : List Char) : List (Option Char) → List (List Char)
  | [] => [part.reverse]
  | none :: rest => part.reverse :: cutAt [] rest
  | some c :: rest => cutAt (c :: part) rest

/-- The arguments that a word stands for. -/
def expand (m : Machine) (word : Word) : List String :=
  let parts := (cutAt [] (word.pieces.flatMap m.charsOf)).filter (!·.isEmpty)
  if parts.isEmpty && word.isQuoted then [""] else parts.map String.ofList

/-- The text of a word that is not cut. -/
def textOf (m : Machine) (word : Word) : String :=
  String.ofList ((word.pieces.flatMap m.charsOf).map fun c ↦ c.getD ' ')

/-! ## Streams -/

/-- Where an output goes. -/
inductive Sink
  | out
  | err
  | nowhere
  | file (route : Route)
deriving DecidableEq, Repr

/-- The streams of a command. -/
structure Streams where
  /-- The input, unless it is that of the script. -/
  input : Option (List UInt8) := none
  /-- The standard output. -/
  out : Sink := .out
  /-- The error output. -/
  err : Sink := .err

def emit (m : Machine) (bytes : List UInt8) : Sink → Machine
  | .out => { m with out := m.out ++ bytes }
  | .err => { m with err := m.err ++ bytes }
  | .nowhere => m
  | .file route =>
    let old := ((m.tree.readBytes route).toOption.map Content.bytes).getD []
    match m.tree.writeFile route (.ofBytes (old ++ bytes)) with
    | .ok tree => { m with tree }
    | .error _ => m

/-- Complains on the error output of a command. -/
def complain (m : Machine) (line : Nat) (streams : Streams) (text : String) : Machine :=
  m.emit (encode (m.name ++ ": " ++ toString line ++ ": " ++ text ++ "\n")) streams.err

/-- The files that are devices. -/
def devices : List (String × Sink) :=
  [("/dev/null", .nowhere), ("/dev/stdout", .out), ("/dev/stderr", .err)]

/-- A fault as a redirection states it. -/
def faultText (whenMissing : String) : Fault → String
  | .notFound => whenMissing
  | fault => fault.title.1

/-- Carries out a redirection, or says what is wrong with it. -/
def redirect (m : Machine) (streams : Streams) (r : Redirect) :
    Except String Streams × Machine :=
  let target := m.textOf r.target
  let route := Route.ofText m.here target
  let set (sink : Sink) : Streams :=
    if r.stream = 2 then { streams with err := sink } else { streams with out := sink }
  let create (content : Content) : Except String Streams × Machine :=
    match m.tree.writeFile route content with
    | .ok tree => (.ok (set (.file route)), { m with tree })
    | .error fault =>
      (.error ("cannot create " ++ target ++ ": " ++ faultText "Directory nonexistent" fault), m)
  if r.operator = ">&" then
    if target = "1" then (.ok (set streams.out), m)
    else if target = "2" then (.ok (set streams.err), m)
    else (.error (target ++ ": Bad file descriptor"), m)
  else if r.operator = "<" then
    if target = "/dev/null" then (.ok { streams with input := some [] }, m)
    else match m.tree.readBytes route with
      | .ok content => (.ok { streams with input := some content.bytes }, m)
      | .error fault =>
        (.error ("cannot open " ++ target ++ ": " ++ faultText "No such file" fault), m)
  else if r.operator = ">" ∨ r.operator = ">>" then
    match devices.lookup target with
    | some sink => (.ok (set (if sink = .out then streams.out else sink)), m)
    | none =>
      match m.tree.readBytes route with
      | .ok content => if r.operator = ">>" then create content else create (.text "")
      | .error _ => create (.text "")
  else (.ok streams, m)

/-- Carries out redirections in order. -/
def redirectAll (m : Machine) (streams : Streams) :
    List Redirect → Except (String × Streams) Streams × Machine
  | [] => (.ok streams, m)
  | r :: rs =>
    match m.redirect streams r with
    | (.ok streams, m) => m.redirectAll streams rs
    | (.error text, m) => (.error (text, streams), m)

/-! ## Commands -/

/-- The machine after a program has run with the given streams. -/
def absorb (m : Machine) (streams : Streams) (e : Effect) : Machine :=
  let m := e.output.foldl
    (fun m (isError, bytes) ↦ m.emit bytes (if isError then streams.err else streams.out)) m
  { m with
    status := match e.ending with
      | .exited code => code
      | .signalled => 137
    input := if streams.input.isSome then m.input else e.input
    elapsed := m.elapsed + e.elapsed }

/-- The signal and the target that the arguments of `kill` name; 0 is no signal. -/
def signalOf : List String → Option (String × String)
  | ["-s", signal, target] => some (signal, target)
  | [signal, target] => some ((signal.drop 1).toString, target)
  | [target] => some ("TERM", target)
  | _ => none

/-- The name and the value of an assignment. -/
def assignment? (word : Word) : Option (List Char × Word) :=
  let chars := word.pieces.takeWhile fun piece ↦ match piece with
    | .plain [c] => c != '='
    | _ => false
  let name := chars.flatMap fun piece ↦ match piece with
    | .plain text => text
    | .parameter _ _ => []
  match word.pieces.drop chars.length with
  | .plain ['='] :: value =>
    if !name.isEmpty && name.all Lexer.isNameChar && !(name.head?.any Char.isDigit) then
      some (name, ⟨value, true⟩)
    else none
  | _ => none

/-- Ends the script with an exit code, if an argument is one. -/
def exitWith (m : Machine) (line : Nat) (streams : Streams) : List String → Machine
  | [] => { m with ending := some (.exited m.status) }
  | arg :: _ =>
    match readWord arg with
    | .ok n => { m with ending := some (.exited (n % 256)) }
    | .error _ =>
      { m.complain line streams ("exit: Illegal number: " ++ arg) with ending := some (.exited 2) }

/-- Sends a signal. -/
def kill (m : Machine) (line : Nat) (streams : Streams) (args : List String) : Machine :=
  match signalOf args with
  | none =>
    let usage := "kill: Usage: kill [-s sigspec | -signum | -sigspec] [pid | job]..."
    { m.complain line streams usage with status := 2 }
  | some (signal, target) =>
    if target.toList = scriptNumber then
      if signal = "0" then { m with status := 0 } else { m with ending := some .signalled }
    else { m.complain line streams "kill: No such process" with status := 1 }

/-- Runs a program by its name and its arguments. -/
def call (m : Machine) (runShell : Program) (line : Nat) (streams : Streams) (name : String)
    (args : List String) : Machine :=
  let surroundings : Surroundings := ⟨m.tree, m.here, streams.input.getD m.input⟩
  let file := if name.toList.contains '/' then
      (["/bin/", "/usr/bin/"].filterMap fun place ↦
        (dropBeginning? place.toList name.toList).map String.ofList).head?
    else some name
  if name = "exit" then m.exitWith line streams args
  else if name = "kill" then m.kill line streams args
  else if name = ":" then { m with status := 0 }
  else if file = some "sh" then m.absorb streams (runShell args surroundings)
  else match file.bind fun name ↦ programs.lookup name with
    | some program => m.absorb streams (program args surroundings)
    | none =>
      if m.tree.doesExist (Route.ofText m.here name) && name.toList.contains '/' then
        { m.complain line streams (name ++ ": Permission denied") with status := 126 }
      else { m.complain line streams (name ++ ": not found") with status := 127 }

/-- Runs a simple command. -/
def runSimple (runShell : Program) (m : Machine) (c : SimpleCommand) : Machine :=
  match m.redirectAll {} c.redirects with
  | (.error (text, streams), m) => { m.complain c.line streams text with status := 2 }
  | (.ok streams, m) =>
    let assigned := (c.words.map assignment?).takeWhile Option.isSome |>.filterMap id
    match (c.words.drop assigned.length).flatMap m.expand with
    | [] =>
      { m with
        bindings := assigned.reverse.map (fun (name, word) ↦ (name, (m.textOf word).toList)) ++
          m.bindings
        status := 0 }
    | "exec" :: name :: args =>
      let m := m.call runShell c.line streams name args
      { m with ending := m.ending.or (some (.exited m.status)) }
    | name :: args => m.call runShell c.line streams name args

/-- Runs the commands of a pipeline, each with the output of the one before it as its input. All but
a pipeline of one command run apart from the script, so that they cannot end it. -/
def runPipeline (runShell : Program) (m : Machine) : List SimpleCommand → Machine
  | [] => m
  | [c] => runSimple runShell m c
  | commands =>
    let (piped, last) := commands.foldl (fun (input, m) c ↦
      let run := runSimple runShell { m with input, out := [], ending := none } c
      (run.out, { run with out := m.out })) (m.input, m)
    { last with input := [], out := m.out ++ piped, ending := none }

/-- Whether a pipeline runs after the last one. -/
def shouldRun (m : Machine) : Condition → Bool
  | .always => true
  | .ifSuccess => m.status == 0
  | .ifFailure => m.status != 0

/-- Runs a script. -/
def runScript (runShell : Program) (m : Machine) (script : Script) : Machine :=
  script.foldl (fun m (condition, pipeline) ↦
    if m.ending.isSome || !m.shouldRun condition then m else m.runPipeline runShell pipeline) m

end Machine

/-! ## The shell as a program -/

/-- What a script has done when it ends. -/
def effectOf (m : Machine) : Effect where
  output := [(false, m.out), (true, m.err)]
  ending := m.ending.getD (.exited m.status)
  input := m.input
  elapsed := m.elapsed

/-- Runs the text of a script. -/
def runText (runShell : Program) (name : String) (s : Surroundings) (text : String) : Effect :=
  match scriptOf text with
  | .error e => failWith s 2 (name ++ ": 1: " ++ e.message)
  | .ok script =>
    let machine : Machine := { name, tree := s.tree, here := s.here, input := s.input }
    effectOf (Machine.runScript runShell machine script)

/-- The shell. Shells in its scripts are nested no deeper than the number says. -/
def shell : Nat → Program
  | 0 => endWith 127
  | depth + 1 => fun args s ↦
    match args with
    | "-c" :: text :: rest => runText (shell depth) (rest.headD "sh") s text
    | ["-c"] => failWith s 2 "sh: 0: -c requires an argument"
    | [] => runText (shell depth) "sh" { s with input := [] } (decodeLossy s.input)
    | file :: _ =>
      match fileBytes s file with
      | .ok bytes => runText (shell depth) file s (decodeLossy bytes)
      | .error fault =>
        let text := Machine.faultText "No such file" fault
        failWith s 2 ("sh: 0: cannot open " ++ file ++ ": " ++ text)

/-! ## A launcher -/

/-- How deep shells are nested at most. -/
def maxDepth : Nat := 8

/-- The most bytes that an argument may have. -/
def argumentLimit : Nat := 131072

/-- The name of a built-in program. -/
def builtInName (program : String) : String :=
  (["/bin/", "/usr/bin/"].filterMap fun place ↦
    (dropBeginning? place.toList program.toList).map String.ofList).headD program

/-- Why a program cannot be started that is not built in. A name without a slash is looked for in
other places, each of which holds the directories that dots name. -/
def refusalOf (tree : FileTree) (here : TreePath) (program : String) : Fault :=
  if program = "." ∨ program = ".." then .denied
  else if program.toList.contains '/' then
    match tree.locate (Route.ofText here program) with
    | .error fault => fault
    | .ok place =>
      match place.existing with
      | .ok _ => .denied
      | .error fault => fault
  else .notFound

/-- Runs the built-in programs in a directory of a file tree. -/
def launcher (here : TreePath) : Launcher FileTree where
  run config input tree :=
    let name := builtInName config.program
    let program := if name = "sh" then some (shell maxDepth) else programs.lookup name
    let isForbidden (text : String) := text.toList.any (·.toNat == 0)
    if (config.program :: config.args).any isForbidden then
      (.refused "nul byte found in provided data", tree)
    else if config.args.any fun arg ↦ argumentLimit ≤ arg.utf8ByteSize + 1 then
      (.refused "Argument list too long (os error 7)", tree)
    else match program with
      | none => (.refused (refusalOf tree here config.program).message, tree)
      | some program =>
        let e := program config.args ⟨tree, here, encode input⟩
        if config.timeout.totalNanos ≤ e.elapsed then (.late, tree)
        else
          let written (isError : Bool) := (e.output.filter (·.1 == isError)).flatMap Prod.snd
          (.ended e.ending (written false) (written true), tree)

end Redline.Shell
