import GaleraStateTransfer.Bytes

/-!
# The arbitrator's start as a daemon

`src/garb/garb_main.cpp` starts `garbd`. `garb::main` reads the configuration and, with `--daemon`,
runs `become_daemon (workdir)` before it enters the receive loop. `become_daemon` changes to `/` and
then to `workdir`, forks and lets the parent exit, starts a new session, forks again and lets that
parent exit, and binds the standard descriptors 0, 1 and 2 to `/dev/null`.

The system calls act on a process record: its working directory, whether it is in a session of its
own making and leads it, how many forks it is down from the process `garbd` started as, and its
descriptor table. Two POSIX rules that the code relies on are modelled with them: `chdir` resolves
a relative path against the working directory (`resolve`), and `open` takes the lowest free
descriptor (`place`). What each call gives back is an input.

Whenever `garbd --daemon` reaches its receive loop, the process is the second child, in the session
it started but not its leader, with `workdir` resolved against `/` as its working directory, whatever
directory `garbd` started in, and with descriptors 0, 1 and 2 on `/dev/null` opened read-only, so
that writes to standard output and standard error fail (`garbd_daemon_detached`). A failed
`chdir ("/")` is reported with the same error and message as a failed `chdir (workdir)`.
-/

namespace GaleraStateTransfer

/-! ## Processes -/

/-- How a descriptor was opened. -/
inductive OpenMode where
  | rdonly
  | wronly
  | rdwr
  deriving DecidableEq, Repr

/-- An open descriptor: the path it was opened on, and how. -/
structure OpenFile where
  path : String
  mode : OpenMode
  deriving DecidableEq, Repr

/-- `open ("/dev/null", O_RDONLY)`'s file. -/
def devNull : OpenFile := ⟨"/dev/null", .rdonly⟩

/-- What of a process the calls of `become_daemon` change. -/
structure Proc where
  /-- The working directory. -/
  cwd : String
  /-- Whether the process is in a session that `setsid` created for this run. -/
  session : Bool
  /-- Whether it leads its session. -/
  leader : Bool
  /-- How many forks it is down from the process `garbd` started as. -/
  forks : Nat
  /-- The descriptor table, by number: `none` for a free descriptor. -/
  fds : List (Option OpenFile)
  deriving DecidableEq, Repr

/-- The directory `chdir (path)` changes to from `cwd`: an absolute path as it is, a relative one
resolved against `cwd`. -/
def resolve (cwd path : String) : String :=
  if path.startsWith "/" then path else if cwd = "/" then "/" ++ path else cwd ++ "/" ++ path

/-- The descriptor table after `open` of `f`, which takes the lowest free descriptor. -/
def place (f : OpenFile) : List (Option OpenFile) → List (Option OpenFile)
  | [] => [some f]
  | none :: fds => some f :: fds
  | some g :: fds => some g :: place f fds

/-- `close (fd)`. -/
def Proc.closeFd (p : Proc) (fd : Nat) : Proc := { p with fds := p.fds.set fd none }

/-- `open (path, flags)` that succeeded. -/
def Proc.openFile (p : Proc) (f : OpenFile) : Proc := { p with fds := place f p.fds }

/-- The file descriptor `fd` is open on: `none` when it is free. -/
def Proc.fdAt (p : Proc) (fd : Nat) : Option OpenFile := p.fds[fd]?.join

/-! ## `become_daemon` -/

/-- What `fork ()` returns: the child's pid in the parent, 0 in the child, or a failure with the
`errno` it sets. -/
inductive ForkResult where
  | parent (pid : Nat)
  | child
  | failed (errno : Int)
  deriving DecidableEq, Repr

/-- What the system calls of one `become_daemon` give back: the `errno` of each call that fails.
`close` is not checked, and `malloc` and `getcwd` only feed a log line. -/
structure DaemonEnv where
  chdirRoot : Option Int
  chdirWorkdir : Option Int
  fork1 : ForkResult
  setsid : Option Int
  fork2 : ForkResult
  /-- The `errno` of a failing `open ("/dev/null", O_RDONLY)` in the loop's turn for `fd`. -/
  openFails : Nat → Option Int

/-- How a call of `become_daemon` ends in the process that made it. -/
inductive DaemonEnd where
  /-- A parent of a `fork` calls `exit` with this status. -/
  | exit (code : Int)
  /-- `gu_throw_error (errno) << msg`. -/
  | throws (errno : Int) (msg : String)
  /-- It returns. -/
  | returns
  deriving DecidableEq, Repr

/-- `EACCES`, with which `chdir` fails when a directory of the path may not be searched. -/
def EACCES : Int := 13

/-- The message of a failed `chdir`, for either call. -/
def chdirFailed (workdir : String) : String := "chdir(" ++ workdir ++ ") failed"

/-- The loop `for (int fd = 0; fd < 3; ++fd)` that opens `/dev/null` read-only, from turn `fd`,
with `n` turns left. -/
def bindNull (env : DaemonEnv) (fd : Nat) : Nat → Proc → Proc × DaemonEnd
  | 0, p => (p, .returns)
  | n + 1, p =>
    match env.openFails fd with
    | some e => (p, .throws e ("Unable to open /dev/null for fd " ++ toString fd))
    | none => bindNull env (fd + 1) n (p.openFile devNull)

/-- `garb::become_daemon (workdir)`, followed in the process that goes on: the process as it ends
the call, and how the call ends there. -/
def becomeDaemon (env : DaemonEnv) (workdir : String) (p : Proc) : Proc × DaemonEnd :=
  match env.chdirRoot with
  | some e => (p, .throws e (chdirFailed workdir))
  | none =>
    let p := { p with cwd := "/" }
    match (if workdir.isEmpty then none else env.chdirWorkdir) with
    | some e => (p, .throws e (chdirFailed workdir))
    | none =>
      let p := { p with cwd := if workdir.isEmpty then p.cwd else resolve p.cwd workdir }
      match env.fork1 with
      | .parent _ => (p, .exit 0)
      | .failed e => (p, .throws e "Failed to fork daemon process")
      | .child =>
        let p := { p with forks := p.forks + 1 }
        match env.setsid with
        | some e => (p, .throws e "setsid() failed")
        | none =>
          let p := { p with session := true, leader := true }
          match env.fork2 with
          | .parent _ => (p, .exit 0)
          | .failed e => (p, .throws e "Second fork failed")
          | .child =>
            let p := { p with forks := p.forks + 1, leader := false }
            bindNull env 0 3 (((p.closeFd 0).closeFd 1).closeFd 2)

/-- A failed `chdir ("/")` is reported as a failed `chdir (workdir)` is, with the message that names
`workdir`. -/
example (p : Proc) :
    (becomeDaemon ⟨some EACCES, none, .child, none, .child, fun _ => none⟩ "/tmp" p).2 =
      (becomeDaemon ⟨none, some EACCES, .child, none, .child, fun _ => none⟩ "/tmp" p).2 := rfl

/-! ## `main` -/

/-- What `garb::main` reads of its `Config`. -/
structure GarbConfig where
  exit : Bool
  daemon : Bool
  workdir : String

/-- How a `garbd` process ends: its exit status, and the process as it entered the receive loop,
if it did. -/
structure GarbEnd where
  status : Int
  loop : Option Proc

/-- `main (argc, argv)`, which calls `garb::main` and returns 1 for an exception that leaves it:
`config` is `none` when `Config`'s constructor throws, and `loop` the return code of `RecvLoop`,
`none` when it throws, which `garb::main` answers with `EXIT_FAILURE`. `become_daemon` runs outside
`garb::main`'s `try`. -/
def garbMain (config : Option GarbConfig) (env : DaemonEnv) (loop : Option Int) (p : Proc) :
    GarbEnd :=
  match config with
  | none => ⟨1, none⟩
  | some cfg =>
    if cfg.exit then ⟨0, none⟩
    else
      let r := if cfg.daemon then becomeDaemon env cfg.workdir p else (p, .returns)
      match r.2 with
      | .exit c => ⟨c, none⟩
      | .throws _ _ => ⟨1, none⟩
      | .returns => ⟨loop.getD 1, some r.1⟩

/-! ## What a daemon is left with -/

/-- Closing descriptors 0, 1 and 2 and opening a file three times puts it at 0, 1 and 2, whatever
else the table holds. -/
theorem place_three_closed (f : OpenFile) (fds : List (Option OpenFile)) :
    (place f (place f (place f (((fds.set 0 none).set 1 none).set 2 none)))).take 3 =
      [some f, some f, some f] := by
  rcases fds with _ | ⟨a, _ | ⟨b, _ | ⟨c, rest⟩⟩⟩ <;> rfl

/-- The loop's turns that all open `/dev/null` place it at the lowest free descriptors. -/
theorem bindNull_returns {env : DaemonEnv} {fd n : Nat} {p p' : Proc}
    (h : bindNull env fd n p = (p', .returns)) : p' = { p with fds := (place devNull)^[n] p.fds } := by
  induction n generalizing fd p with
  | zero => exact (Prod.mk.inj h).1.symm
  | succ n ih =>
    simp only [bindNull] at h
    split at h
    · cases h
    · rw [ih h]
      rfl

/-- When `become_daemon` returns, the process is the second child, in the session it started but
not its leader, with `workdir` resolved against `/` as its working directory, and with `/dev/null`
opened read-only on descriptors 0, 1 and 2. -/
theorem becomeDaemon_returns {env : DaemonEnv} {workdir : String} {p p' : Proc}
    (h : becomeDaemon env workdir p = (p', .returns)) :
    p'.forks = p.forks + 2 ∧ p'.session = true ∧ p'.leader = false ∧
      p'.cwd = (if workdir.isEmpty then "/" else resolve "/" workdir) ∧
      ∀ fd < 3, p'.fdAt fd = some devNull := by
  simp only [becomeDaemon] at h
  rcases h1 : env.chdirRoot with _ | e <;>
    simp only [h1, Prod.mk.injEq, reduceCtorEq, and_false] at h
  rcases h2 : (if workdir.isEmpty then none else env.chdirWorkdir) with _ | e <;>
    simp only [h2, Prod.mk.injEq, reduceCtorEq, and_false] at h
  rcases h3 : env.fork1 with _ | _ | e <;> simp only [h3, Prod.mk.injEq, reduceCtorEq, and_false] at h
  rcases h4 : env.setsid with _ | e <;> simp only [h4, Prod.mk.injEq, reduceCtorEq, and_false] at h
  rcases h5 : env.fork2 with _ | _ | e <;> simp only [h5, Prod.mk.injEq, reduceCtorEq, and_false] at h
  rw [bindNull_returns h]
  refine ⟨rfl, rfl, rfl, rfl, fun fd hfd => ?_⟩
  have h6 := congrArg (·[fd]?) (place_three_closed devNull p.fds)
  simp only [List.getElem?_take_of_lt hfd] at h6
  simp only [Proc.fdAt, Proc.closeFd, Function.iterate_succ, Function.iterate_zero, Function.comp_apply,
    id_eq]
  rw [h6]
  interval_cases fd <;> rfl

/-- Whenever `garbd` with `--daemon` enters its receive loop, it runs in the second child of the
process it started as, in the session `setsid` created but not as its leader, in `workdir`
resolved against `/` whatever directory it started in, with `/dev/null` opened read-only on
descriptors 0, 1 and 2, so that writes to standard output and standard error fail. -/
theorem garbd_daemon_detached {cfg : GarbConfig} {env : DaemonEnv} {loop : Option Int} {p p' : Proc}
    (hd : cfg.daemon = true) (h : (garbMain (some cfg) env loop p).loop = some p') :
    p'.forks = p.forks + 2 ∧ p'.session = true ∧ p'.leader = false ∧
      p'.cwd = (if cfg.workdir.isEmpty then "/" else resolve "/" cfg.workdir) ∧
      ∀ fd < 3, p'.fdAt fd = some devNull := by
  cases hx : cfg.exit
  · simp only [garbMain, hd, hx, Bool.false_eq_true, if_false, if_true] at h
    split at h
    · cases h
    · cases h
    · rename_i hr
      obtain rfl := Option.some.inj h
      exact becomeDaemon_returns (Prod.ext rfl hr)
  · simp [garbMain, hx] at h

/-- Every call of a run succeeds. -/
def daemonEnv : DaemonEnv := ⟨none, none, .child, none, .child, fun _ => none⟩

/-- `garbd` started in `/home/garb` with descriptors 0 to 3 open, with `--daemon` and the relative
`--workdir=var/lib/garb`: it runs in `/var/lib/garb`. -/
def garbStart : Proc :=
  ⟨"/home/garb", false, false, 0, [some ⟨"/dev/tty", .rdwr⟩, some ⟨"/dev/tty", .rdwr⟩,
    some ⟨"/dev/tty", .rdwr⟩, some ⟨"garbd.log", .wronly⟩]⟩

/-- The run of `garbStart` with every call succeeding. -/
theorem garbd_daemon_detached_relative :
    ∃ p', (⟨false, true, "var/lib/garb"⟩ : GarbConfig).daemon = true ∧
      (garbMain (some ⟨false, true, "var/lib/garb"⟩) daemonEnv (some 0) garbStart).loop = some p' ∧
      (p'.forks = garbStart.forks + 2 ∧ p'.session = true ∧ p'.leader = false ∧
        p'.cwd = (if "var/lib/garb".isEmpty then "/" else resolve "/" "var/lib/garb") ∧
        ∀ fd < 3, p'.fdAt fd = some devNull) :=
  ⟨_, rfl, rfl, @garbd_daemon_detached ⟨false, true, "var/lib/garb"⟩ daemonEnv (some 0) garbStart _ rfl rfl⟩

end GaleraStateTransfer
