import SuiteForge.Shell.Machine

/-!
Running scripts.

`fuel` bounds the steps that lie inside or behind one another; a script that runs out of it stops.
-/

namespace SuiteForge.Shell

open Printing (Bytes bytesOf)

namespace Run

/-- What is done when the fuel is used up. -/
def exhausted : Run α := throw .exit

/-- Runs something whose status is looked at. -/
def tested (act : Run Unit) : Run Unit := do
  let before := (← get).tested
  modify ({ · with tested := true })
  act
  modify ({ · with tested := before })

/-- Runs something in a shell of its own: only the disk, what it writes and its status stay. -/
def apart (act : Run Unit) : Run Unit := do
  let m ← get
  let back (now : Machine) : Machine :=
    { m with disk := now.disk, buffers := now.buffers, status := now.status }
  try
    act
    modify back
  catch h =>
    modify back
    match h with
    | .killed signal => finish (128 + signal)
    | _ => return ()

/-- Runs something with other channels. -/
def through (channels : List (Nat × Channel)) (act : Run Unit) : Run Unit := do
  let before := (← get).channels
  modify ({ · with channels })
  try
    act
    modify ({ · with channels := before })
  catch h =>
    modify ({ · with channels := before })
    throw h

/-- Runs a script and then what it has left to be run at its end. The status stays, unless that
ends with another one. -/
def leaving (runText : List Char → Run Unit) (act : Run Unit) : Run Unit := do
  modify ({ · with atExit := [] })
  let halt : Option Halt ← tryCatch (do act; return none) fun h => return some h
  let m ← get
  match halt with
  | some (.killed signal) => throw (.killed signal)
  | _ =>
    if !m.atExit.isEmpty then
      modify ({ · with atExit := [] })
      runText m.atExit
      finish m.status
    match halt with
    | some h => throw h
    | none => return ()

/-- The `trap` command: only the end of the script is waited for. -/
def setTrap (args : List (List Char)) : Run Unit := do
  let awaitsEnd (names : List (List Char)) : Bool :=
    names.contains ['0'] || names.contains "EXIT".toList
  match args with
  | action :: names =>
    if awaitsEnd names then
      modify fun m => { m with atExit := if action = ['-'] then [] else action }
    else if awaitsEnd args then modify ({ · with atExit := [] })
    finish 0
  | [] => finish 0

/-- Ends a script that is strict when the last command has failed and nobody looks. -/
def checkStrict : Run Unit := do
  let m ← get
  if m.strict ∧ !m.tested ∧ m.status ≠ 0 then throw .exit

/-- The channels with a descriptor led elsewhere. -/
def redirect (fd : Nat) (c : Channel) (cs : List (Nat × Channel)) : List (Nat × Channel) :=
  (fd, c) :: cs.filter (·.1 ≠ fd)

/-- Opens a file to write; a complaint says why it cannot be opened. -/
def openToWrite (path : Path) (keep : Bool) : Run (Except String Channel) := do
  let m ← get
  if path.text = "/dev/null" then return .ok .nowhere
  else if path.text = "/dev/stdout" ∨ path.text = "/dev/stderr" then
    let fd := if path.text = "/dev/stdout" then 1 else 2
    return .ok ((m.channels.lookup fd).getD .nowhere)
  else
    let old := match m.disk.read m.cwd path with
      | .ok content => content
      | .error _ => .empty
    match m.disk.write m.cwd path (if keep then old else .empty) with
    | .ok disk =>
      set { m with disk }
      match disk.resolve m.cwd path with
      | .ok (.entry place _) => return .ok (.file place)
      | _ => return .ok .nowhere
    | .error cause =>
      let reason := if cause = .missing then "Directory nonexistent" else Program.causeText cause
      return .error s!"cannot create {path.text}: {reason}"

def openTarget (opening : Opening) (target : List Char) : Run (Except String Channel) := do
  let path : Path := ⟨String.ofList target⟩
  match opening with
  | .text => return .ok (.buffer (← newBuffer (bytesOf target)))
  | .write => openToWrite path false
  | .append => openToWrite path true
  | .duplicate =>
    if target = ['-'] then return .ok .nowhere
    else match (← get).channels.lookup (Decimal.digitsValue 0 target) with
      | some c => return .ok c
      | none => return .error s!"{path.text}: Bad file descriptor"
  | .read =>
    let m ← get
    if path.text = "/dev/null" then return .ok .nowhere
    else match m.disk.read m.cwd path with
      | .ok content => return .ok (.buffer (← newBuffer content.toList))
      | .error cause =>
        let reason := if cause = .missing then "No such file" else Program.causeText cause
        return .error s!"cannot open {path.text}: {reason}"

/-- Takes a line from the input. The flag says whether it was ended by a line feed. -/
def takeLine : Run (Bytes × Bool) := do
  let bytes ← input
  let line := bytes.takeWhile (· ≠ 10)
  setInput (bytes.drop (line.length + 1))
  return (line, line.length < bytes.length)

/-- The fields of a line for a number of variables: the last one takes what is left. -/
def lineFields (separators : List Char) : Nat → List Char → List (List Char)
  | 0, _ => []
  | 1, s =>
    let blank (c : Char) : Bool := separators.contains c && Text.isBlank c
    [(((s.dropWhile blank).reverse).dropWhile blank).reverse]
  | n + 1, s =>
    let s := s.dropWhile fun c => separators.contains c && Text.isBlank c
    s.takeWhile (!separators.contains ·) ::
      lineFields separators n ((s.dropWhile (!separators.contains ·)).drop 1)

/-- Gives values to variables, nothing to those that are left over. -/
def assignAll : List (List Char) → List (List Char) → Run Unit
  | [], _ => return ()
  | name :: names, values => do
    assign name (values.head?.getD [])
    assignAll names values.tail

def readInto (names : List (List Char)) : Run Unit := do
  let (line, ended) ← takeLine
  let s := (Text.ofBytes line.toByteArray).toList
  assignAll names (lineFields (← separators) names.length s)
  finish (if ended then 0 else 1)

/-- The name and value of an argument such as `name=value`. -/
def assignment? (arg : List Char) : Option (List Char × List Char) :=
  Text.splitOnce ['='] arg

/-- Assigns the arguments that are assignments. -/
def declare (args : List (List Char)) : Run Unit := do
  for arg in args do
    match assignment? arg with
    | some (name, value) => assign name value
    | none => pure ()
  finish 0

/-- Options of the shell and new arguments. -/
def setOptions : List (List Char) → Run Unit
  | [] => finish 0
  | ['-', '-'] :: args => do
    modify ({ · with arguments := args })
    finish 0
  | ('-' :: letters) :: args => do
    if letters.contains 'e' then modify ({ · with strict := true })
    setOptions args
  | ('+' :: letters) :: args => do
    if letters.contains 'e' then modify ({ · with strict := false })
    setOptions args
  | args => do
    modify ({ · with arguments := args })
    finish 0

/-- The signals that scripts send, by name. -/
def signals : List (String × Nat) := [
  ("HUP", 1), ("INT", 2), ("QUIT", 3), ("ILL", 4), ("ABRT", 6), ("FPE", 8), ("KILL", 9),
  ("USR1", 10), ("SEGV", 11), ("USR2", 12), ("PIPE", 13), ("ALRM", 14), ("TERM", 15)]

def signalOf (s : List Char) : Nat :=
  if s.all Text.isDigit then Decimal.digitsValue 0 s
  else (signals.lookup (String.ofList s)).getD 15

/-- The `kill` command: a script can only end itself. -/
def kill (args : List (List Char)) : Run Unit := do
  let (signal, targets) := match args with
    | ['-', 's'] :: name :: rest => (signalOf name, rest)
    | ('-' :: name) :: rest => (signalOf name, rest)
    | rest => (15, rest)
  if signal ≠ 0 ∧ targets.contains processNumber then throw (.killed signal)
  else finish (if signal = 0 then 0 else 1)

def changeDirectory (line : Nat) (args : List (List Char)) : Run Unit := do
  let m ← get
  match args with
  | arg :: _ =>
    match m.disk.resolve m.cwd ⟨String.ofList arg⟩ with
    | .ok (.entry place .directory) =>
      set { m with cwd := place }
      finish 0
    | _ =>
      complain line (s!"cd: can\x27t cd to {String.ofList arg}")
      finish 2
  | [] => finish 0

/-- Runs a program that every system has. -/
def runProgram (name : String) (program : Invocation → Answer) (args : List (List Char)) :
    Run Unit := do
  let m ← get
  let a := program { name, args, input := ← input, disk := m.disk, cwd := m.cwd }
  modify ({ · with disk := a.disk })
  setInput a.unread
  write 1 a.out
  write 2 a.err
  finish a.status

/-- The number in the first argument, or another one. -/
def numberOr (other : Nat) (args : List (List Char)) : Nat :=
  match args with
  | arg :: _ => (Arithmetic.numberOf arg % 256).toNat
  | [] => other

/-- The status of a word that leads to no program. -/
def notRun (line : Nat) (name : List Char) : Run Unit := do
  let m ← get
  if name.contains '/' ∧ m.disk.isThere m.cwd ⟨String.ofList name⟩ then
    complain line s!"{String.ofList name}: Permission denied"
    finish 126
  else
    complain line s!"{String.ofList name}: not found"
    finish 127

mutual

def expandPart : Nat → Part → Run (List Segment)
  | 0, _ => exhausted
  | fuel + 1, part => do
    match part with
    | .text s quoted => return [.chars (s.map (·, quoted)) false]
    | .output c quoted =>
      let index ← newBuffer []
      let channels := redirect 1 (.buffer index) (← get).channels
      apart (through channels (exec fuel c))
      let s := (Text.ofBytes (← bufferContent index).toByteArray).toList
      let s := (s.reverse.dropWhile (· = '\n')).reverse
      return [.chars (s.map (·, quoted)) (!quoted)]
    | .arithmetic e quoted =>
      let s := Pattern.plain (← expandText fuel e)
      let bindings := (← get).bindings
      let known (name : List Char) : Int := Arithmetic.numberOf ((bindings.lookup name).getD [])
      match Arithmetic.value? known s with
      | some n => return [.chars ((toString n).toList.map (·, quoted)) false]
      | none =>
        complain 1 s!"arithmetic expression: expecting primary: \"{String.ofList s}\""
        finish 2
        throw .exit
    | .value name use argument quoted => expandValue fuel name use argument quoted

def expandValue : Nat → List Char → Use → Word → Bool → Run (List Segment)
  | 0, _, _, _, _ => exhausted
  | fuel + 1, name, use, argument, quoted => do
    let arguments := (← get).arguments
    let shown (s : List Char) : List Segment := [.chars (s.map (·, quoted)) (!quoted)]
    let value ← value? name
    let isList := name = ['@'] ∨ (name = ['*'] ∧ !quoted)
    let counts (emptyToo : Bool) : Bool := match value with
      | some s => !(emptyToo && s.isEmpty) && !(isList && arguments.isEmpty)
      | none => false
    let whole : List Segment :=
      if isList then
        if arguments.isEmpty then [.nothing]
        else List.intercalate [Segment.next] (arguments.map shown)
      else shown (value.getD [])
    match use with
    | .plain => return whole
    | .length => return shown (Nat.toDigits 10 (value.getD []).length)
    | .orElse emptyToo => if counts emptyToo then return whole else expand fuel argument
    | .instead emptyToo => if counts emptyToo then expand fuel argument else return []
    | .orSet emptyToo =>
      if counts emptyToo then return whole
      else
        let s := Pattern.plain (← expandText fuel argument)
        assign name s
        return shown s
    | .orFail emptyToo =>
      if counts emptyToo then return whole
      else
        let s := Pattern.plain (← expandText fuel argument)
        let reason := if s.isEmpty then "parameter not set" else String.ofList s
        complain 1 s!"{String.ofList name}: {reason}"
        finish 2
        throw .exit
    | .cutFront most =>
      let p ← expandText fuel argument
      return shown (Pattern.cutFront most p (value.getD []))
    | .cutBack most =>
      let p ← expandText fuel argument
      return shown (Pattern.cutBack most p (value.getD []))

def expand : Nat → Word → Run (List Segment)
  | 0, _ => exhausted
  | _, [] => return []
  | fuel + 1, p :: ps => do
    let first ← expandPart fuel p
    return first ++ (← expand fuel ps)

def expandText : Nat → Word → Run (List Marked)
  | 0, _ => exhausted
  | fuel + 1, w => return Fields.textOf (← expand fuel w)

def expandAll : Nat → List Word → Run (List (List Char))
  | 0, _ => exhausted
  | _, [] => return []
  | fuel + 1, w :: ws => do
    let segments ← expand fuel w
    let m ← get
    let fields := (Fields.ofSegments (← separators) segments).flatMap (Fields.paths m.disk m.cwd)
    return fields ++ (← expandAll fuel ws)

/-- Opens redirections one after the other; the channels they lead to, or a complaint. -/
def openAll : Nat → List Redirection → List (Nat × Channel) →
    Run (Except String (List (Nat × Channel)))
  | 0, _, _ => exhausted
  | _, [], channels => return .ok channels
  | fuel + 1, (fd, opening, target) :: rest, channels => do
    let s := Pattern.plain (← expandText fuel target)
    let before := (← get).channels
    modify ({ · with channels })
    let opened ← openTarget opening s
    modify ({ · with channels := before })
    match opened with
    | .error e => return .error e
    | .ok c => openAll fuel rest (redirect fd c channels)

def exec : Nat → Command → Run Unit
  | 0, _ => exhausted
  | fuel + 1, command => do
    match command with
    | .simple line assignments words => execSimple fuel line assignments words
    | .negated c =>
      tested (exec fuel c)
      finish (if (← get).status = 0 then 1 else 0)
    | .pipe left right =>
      let index ← newBuffer []
      let channels := (← get).channels
      apart (through (redirect 1 (.buffer index) channels) (exec fuel left))
      apart (through (redirect 0 (.buffer index) channels) (exec fuel right))
      checkStrict
    | .both left right =>
      tested (exec fuel left)
      if (← get).status = 0 then exec fuel right
    | .either left right =>
      tested (exec fuel left)
      if (← get).status ≠ 0 then exec fuel right
    | .sequence cs => execAll fuel cs
    | .subshell c =>
      apart (exec fuel c)
      checkStrict
    | .choose condition positive negative =>
      tested (exec fuel condition)
      if (← get).status = 0 then exec fuel positive
      else
        finish 0
        exec fuel negative
    | .loop positive condition body =>
      execLoop fuel positive condition body 0
    | .each name words body =>
      let values ← match words with
        | some ws => expandAll fuel ws
        | none => pure (← get).arguments
      finish 0
      execEach fuel name body values
    | .select word arms =>
      let s := Pattern.plain (← expandText fuel word)
      finish 0
      execArms fuel s arms
    | .define name body =>
      modify fun m => { m with functions := (name, body) :: m.functions }
      finish 0
    | .redirected line c targets =>
      match ← openAll fuel targets (← get).channels with
      | .error e =>
        complain line e
        finish 2
        checkStrict
      | .ok channels =>
        match c with
        | .simple _ [] [[.text ['e'] false, .text ['x'] false, .text ['e'] false,
            .text ['c'] false]] => modify ({ · with channels })
        | c => through channels (exec fuel c)

def execAll : Nat → List Command → Run Unit
  | 0, _ => exhausted
  | _, [] => return ()
  | fuel + 1, c :: cs => do
    exec fuel c
    execAll fuel cs

/-- Runs the body of a loop once; the flag says whether the loop goes on. -/
def execBody : Nat → Command → Run Bool
  | 0, _ => exhausted
  | fuel + 1, body =>
    tryCatch (do
      exec fuel body
      return true) fun
      | .broken levels => if levels ≤ 1 then return false else throw (.broken (levels - 1))
      | .continued levels => if levels ≤ 1 then return true else throw (.continued (levels - 1))
      | h => throw h

def execLoop : Nat → Bool → Command → Command → Nat → Run Unit
  | 0, _, _, _, _ => exhausted
  | fuel + 1, positive, condition, body, last => do
    tested (exec fuel condition)
    if ((← get).status = 0) = positive then
      if ← execBody fuel body then execLoop fuel positive condition body (← get).status
    else finish last

def execEach : Nat → List Char → Command → List (List Char) → Run Unit
  | 0, _, _, _ => exhausted
  | _, _, _, [] => return ()
  | fuel + 1, name, body, v :: vs => do
    assign name v
    if ← execBody fuel body then execEach fuel name body vs

/-- Runs the first arm with a pattern that fits. -/
def execArms : Nat → List Char → List (List Word × Command) → Run Unit
  | 0, _, _ => exhausted
  | _, _, [] => return ()
  | fuel + 1, s, (patterns, body) :: arms => do
    if ← fitsAny fuel s patterns then exec fuel body else execArms fuel s arms

def fitsAny : Nat → List Char → List Word → Run Bool
  | 0, _, _ => exhausted
  | _, _, [] => return false
  | fuel + 1, s, w :: ws => do
    if Pattern.fits (← expandText fuel w) s then return true else fitsAny fuel s ws

def assignWords : Nat → List (List Char × Word) → Run Unit
  | 0, _ => exhausted
  | _, [] => return ()
  | fuel + 1, (name, w) :: rest => do
    assign name (Pattern.plain (← expandText fuel w))
    assignWords fuel rest

/-- Runs a simple command; without a name it only assigns. -/
def execSimple : Nat → Nat → List (List Char × Word) → List Word → Run Unit
  | 0, _, _, _ => exhausted
  | fuel + 1, line, assignments, words => do
    match ← expandAll fuel words with
    | [] =>
      let runsCommand := (assignments.any fun (_, w) => w.any fun
        | .output .. => true
        | _ => false)
      assignWords fuel assignments
      if !runsCommand then finish 0
    | name :: args =>
      let before := (← get).bindings
      assignWords fuel assignments
      execNamed fuel line name args
      if !assignments.isEmpty then modify ({ · with bindings := before })
    checkStrict

/-- Runs a function, a command of the shell or a program. -/
def execNamed : Nat → Nat → List Char → List (List Char) → Run Unit
  | 0, _, _, _ => exhausted
  | fuel + 1, line, name, args => do
    let m ← get
    match m.functions.lookup name with
    | some body =>
      modify ({ · with arguments := args })
      tryCatch (exec fuel body) fun
        | .returned => return ()
        | h => throw h
      modify ({ · with arguments := m.arguments })
    | none =>
      match String.ofList name with
      | ":" => finish 0
      | "exit" =>
        finish (numberOr m.status args)
        throw .exit
      | "return" =>
        finish (numberOr m.status args)
        throw .returned
      | "break" => throw (.broken (numberOr 1 args))
      | "continue" => throw (.continued (numberOr 1 args))
      | "cd" => changeDirectory line args
      | "pwd" =>
        write 1 (bytesOf ('/' :: ("/".intercalate m.cwd).toList ++ ['\n']))
        finish 0
      | "echo" =>
        write 1 (Printing.shellEcho args)
        finish 0
      | "set" => setOptions args
      | "shift" =>
        modify fun m => { m with arguments := m.arguments.drop (numberOr 1 args) }
        finish 0
      | "unset" =>
        for arg in args do unassign arg
        finish 0
      | "export" => declare args
      | "readonly" => declare args
      | "local" => declare args
      | "read" => readInto (args.filter (·.head? ≠ some '-'))
      | "kill" => kill args
      | "eval" => execText fuel (Printing.joined args)
      | "." => execFile fuel line args
      | "exec" =>
        match args with
        | name :: args =>
          execNamed fuel line name args
          throw .exit
        | [] => finish 0
      | "command" =>
        match args with
        | name :: args => execNamed fuel line name args
        | [] => finish 0
      | "trap" => setTrap args
      | "wait" => finish 0
      | "umask" => finish 0
      | "sh" => apart (execShell fuel args)
      | s =>
        match Program.named.lookup s with
        | some program => runProgram s program args
        | none =>
          match Program.nameAt? s with
          | some "sh" => apart (execShell fuel args)
          | some s =>
            match Program.named.lookup s with
            | some program => runProgram s program args
            | none => notRun line name
          | none => notRun line name

def execText : Nat → List Char → Run Unit
  | 0, _ => exhausted
  | fuel + 1, s => do
    match Command.ofText (String.ofList s) with
    | .ok c => exec fuel c
    | .error e =>
      complain e.line e.reason
      finish 2
      throw .exit

def execFile : Nat → Nat → List (List Char) → Run Unit
  | 0, _, _ => exhausted
  | fuel + 1, line, args => do
    let m ← get
    match args with
    | [] => finish 2
    | file :: _ =>
      match m.disk.read m.cwd ⟨String.ofList file⟩ with
      | .ok content => execText fuel (Text.ofBytes content).toList
      | .error cause =>
        let reason := if cause = .missing then "No such file" else Program.causeText cause
        complain line s!"cannot open {String.ofList file}: {reason}"
        finish 2
        throw .exit

/-- A shell from its arguments: options, then a script or a file with one, then its arguments. -/
def execShell : Nat → List (List Char) → Run Unit
  | 0, _ => exhausted
  | fuel + 1, args => do
    match args with
    | [] =>
      let script := (Text.ofBytes (← input).toByteArray).toList
      leaving (execText fuel) (execText fuel script)
    | ['-', 'c'] :: script :: rest =>
      match rest with
      | name :: arguments => modify ({ · with name, arguments })
      | [] => modify ({ · with arguments := [] })
      leaving (execText fuel) (execText fuel script)
    | ['-', '-'] :: rest => execShell fuel rest
    | ('-' :: letters) :: rest =>
      if letters.contains 'e' then modify ({ · with strict := true })
      if letters.contains 'c' then execShell fuel (['-', 'c'] :: rest)
      else execShell fuel rest
    | file :: arguments =>
      let m ← get
      if m.disk.isThere m.cwd ⟨String.ofList file⟩ then
        modify ({ · with name := file, arguments })
        leaving (execText fuel) (execFile fuel 0 [file])
      else execFile fuel 0 [file]

end

end Run

/-! ### From outside -/

/-- How a process ends. -/
inductive Ending where
  | exited (status : Nat)
  | signalled (signal : Nat)
  deriving DecidableEq

/-- A process that has ended: how, what it has written, and the disk it leaves. -/
structure Process where
  ending : Ending
  out : ByteArray
  err : ByteArray
  disk : Disk

/-- Enough for every script that ends soon. -/
def stepLimit : Nat := 100000

/-- Runs a program with nothing to read; `name` is how it was called. -/
def Process.run (program name : String) (args : List String) (d : Disk) (cwd : Location) :
    Process :=
  let args := args.map String.toList
  let start : Machine := {
    disk := d, cwd, name := name.toList
    channels := [(0, .buffer 0), (1, .buffer 1), (2, .buffer 2)]
    buffers := #[[], [], []] }
  let act : Run Unit :=
    if program = "sh" then Run.execShell stepLimit args
    else match Program.named.lookup program with
      | some p => Run.runProgram name p args
      | none => Run.finish 127
  let (result, m) := (act.run).run start
  { ending := match result with
      | .error (.killed signal) => .signalled signal
      | _ => .exited m.status
    out := (m.buffers.getD 1 []).toByteArray
    err := (m.buffers.getD 2 []).toByteArray
    disk := m.disk }

end SuiteForge.Shell
