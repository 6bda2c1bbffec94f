import LatencySweep.Host.Shell.Expansion

/-
  Redirections of the shell.

  The targets of all redirections of a command are expanded
  before the first one is carried out.

  Key definitions include:
    * `Shell.Target`
    * `Shell.expandRedirect`
    * `Shell.applyRedirect`
    * `Shell.redirectAll`
-/

namespace LatencySweep

namespace Shell

/- What a descriptor is going to lead to. -/
inductive Target where
  | file (kind : RedirectKind) (path : String)
  | same (fd : Nat)
  | nowhere
  | content (text : String)

/- Stop because a number of a descriptor cannot be read. -/
def failDescriptor {α : Type} : Action α :=
  fail "Syntax error: Bad fd number"

/- The descriptor and the target of a redirection. -/
def expandRedirect
    (output : Command → Action String)
    (redirect : Redirect) : Action (Nat × Target) := do
  match redirect with
  | .file fd kind word =>
      return (fd, .file kind (← expandText output word))
  | .duplicate fd word =>
      let text ← expandText output word
      match text.toList with
      | ['-'] => return (fd, .nowhere)
      | [d] =>
          if d.isDigit then
            return (fd, .same (d.toNat - '0'.toNat))
          else failDescriptor
      | _ => failDescriptor
  | .document fd number =>
      let word := ((← get).documents.lookup number).getD []
      return (fd, .content (← expandDocument output word))

/- Lead a descriptor to a channel. -/
def lead (fd number : Nat) : Action Unit :=
  modify fun s =>
    { s with descriptors := s.descriptors.set fd number }

/- Open a file for a descriptor. -/
def openFor
    (fd : Nat)
    (kind : RedirectKind)
    (path : String) : Action Unit := do
  let s ← get
  let mode : OpenMode :=
    match kind with
    | .read => .read
    | .readWrite => .readWrite
    | .replace | .forceReplace => .replace
    | .append => .append
  let reads := kind = .read
  let verb := if reads then "open" else "create"
  let refused (e : OsError) : Action Unit :=
    fail s!"cannot {verb} {path}: {openReason e (!reads)}"
  let keeps := kind = .replace && s.hasOption 'C' &&
    s.machine.tree.isFile (Call.pathOf path)
  if keeps then refused .alreadyExists
  else
    match s.machine.openPath s.descriptors mode
        (Call.pathOf path) with
    | .error e => refused e
    | .ok (number, machine) =>
        set { s with machine }
        lead fd number

/- Carry out a redirection. -/
def applyRedirect (fd : Nat) (target : Target) :
    Action Unit := do
  let s ← get
  match target with
  | .file kind path => openFor fd kind path
  | .same other =>
      match s.descriptors.channel? other with
      | some number => lead fd number
      | none => fail s!"{other}: Bad file descriptor"
  | .nowhere =>
      set { s with descriptors := s.descriptors.close fd }
  | .content text =>
      let (number, machine) :=
        s.machine.addChannel (.pipe (Bytes.ofRaw text))
      set { s with machine }
      lead fd number

/- Carry out redirections whose targets are known. -/
def redirectAll (targets : List (Nat × Target)) :
    Action Unit :=
  targets.forM fun (fd, target) => applyRedirect fd target

/- Carry out an action with redirections and take them back
   behind it. The second action is taken if a redirection
   fails. -/
def withRedirects {α : Type}
    (targets : List (Nat × Target))
    (otherwise : Action α)
    (act : Action α) : Action α := do
  let before := (← get).descriptors
  let result ←
    match ← attempt (redirectAll targets) with
    | .error .failed => attempt otherwise
    | .error stop => throw stop
    | .ok _ => attempt act
  modify fun s => { s with descriptors := before }
  match result with
  | .ok a => return a
  | .error stop => throw stop

end Shell

end LatencySweep
