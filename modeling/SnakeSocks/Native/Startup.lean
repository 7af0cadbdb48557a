import SnakeSocks.Native.Opt
import SnakeSocks.Native.Relay

/-!
# From `main` to `listen`

| here | there |
| --- | --- |
| `clientOptions`, `clientConf`, `openedLog`, `wrappedMain` | `wrapped_main` of `skcli` (`client.cc:94-166`) |
| `serverOptions` | the options of `sksrv` (`server.cc:91-111`) |
| `ClientConfig.load` | `client_config::load` (`config.hpp:27`) |
| `skcliMain` | `skcli_main` (`client.cc:22`) |
| `OutboundTunnel.make`, `OutboundTunnel.move`, `initCString` | the constructors of `outbound_tunnel` (`tunnel.hpp:16-21`, `tunnel.cc:12`) |
| `loadSo` | `module_interface::loadSo` (`module.cc:59`) |

The configuration file, the shared object and `daemon` are parameters (`World`), and what the resolver says is a script. A field
that no constructor sets is `none`. `outbound_tunnel` is made once and moved once, each of the two resolves the server's name, and
the second forgets whether it may retry: `skcli_started_iff` says what that comes to. Of the log there is the line that quotes
the name of the log file, and whether that file can be opened; no other line on this way quotes anything that could hold `{}`.
-/

namespace SnakeSocks.Startup

open CMem Opt
open Effects (bind_of_ok bind_of_error of_bind_eq_ok)
open Sio (Stop)
open Tunnel (IpAddress)

/-! ## The options -/

def help : Switch := ⟨["--help", "-h"], true⟩
def daemon : Switch := ⟨["--daemon", "-d"], true⟩
def retry : Switch := ⟨["--retry"], true⟩
def conf : Switch := ⟨["--conf", "-c"], false⟩
def log : Switch := ⟨["--log", "-l"], false⟩
def server : Switch := ⟨["--server", "-s"], false⟩
def serverPort : Switch := ⟨["--server-port", "-p"], false⟩
def passphrase : Switch := ⟨["--passphrase", "-k"], false⟩
def listen : Switch := ⟨["--listen", "-L"], false⟩
def listenPort : Switch := ⟨["--listen-port", "-P"], false⟩
def debug : Switch := ⟨["--debug", "-D"], false⟩
def mod : Switch := ⟨["--mod", "-m"], false⟩

/-- The options of `skcli`, in the order in which it looks for them. -/
def clientTable : List Switch :=
  [help, daemon, retry, conf, log, server, serverPort, passphrase, listen, listenPort, debug, mod]

def serverTable : List Switch := [help, daemon, conf, log, listen, listenPort, passphrase, debug, mod]

structure ClientOptions where
  asDaemon : Bool
  retryResolve : Bool
  confPath : String
  logFilePath : String
  serverAddr : String
  serverPort : String
  passP : String
  listenAddr : String
  listenPort : String
  debugLev : String
  modPath : String
deriving DecidableEq

structure ServerOptions where
  asDaemon : Bool
  confPath : String
  logFilePath : String
  listenAddr : String
  listenPort : String
  passP : String
  debugLev : String
  modPath : String
deriving DecidableEq

/-- `none` is `--help`. -/
def clientOptions : Parser (Option ClientOptions) := do
  if ← getBoolArgOf "--help" "-h" then
    return none
  else
    let asDaemon ← getBoolArgOf "--daemon" "-d"
    let retryResolve ← getBoolArg "--retry"
    let confPath ← getValueArgOf "--conf" "-c" false ""
    let logFilePath ← getValueArgOf "--log" "-l" false ""
    let serverAddr ← getValueArgOf "--server" "-s" false ""
    let serverPort ← getValueArgOf "--server-port" "-p" false ""
    let passP ← getValueArgOf "--passphrase" "-k" false ""
    let listenAddr ← getValueArgOf "--listen" "-L" false ""
    let listenPort ← getValueArgOf "--listen-port" "-P" false ""
    let debugLev ← getValueArgOf "--debug" "-D" false ""
    let modPath ← getValueArgOf "--mod" "-m" false ""
    return some ⟨asDaemon, retryResolve, confPath, logFilePath, serverAddr, serverPort, passP, listenAddr, listenPort,
      debugLev, modPath⟩

def serverOptions : Parser (Option ServerOptions) := do
  if ← getBoolArgOf "--help" "-h" then
    return none
  else
    let asDaemon ← getBoolArgOf "--daemon" "-d"
    let confPath ← getValueArgOf "--conf" "-c" false ""
    let logFilePath ← getValueArgOf "--log" "-l" false ""
    let listenAddr ← getValueArgOf "--listen" "-L" false ""
    let listenPort ← getValueArgOf "--listen-port" "-P" false ""
    let passP ← getValueArgOf "--passphrase" "-k" false ""
    let debugLev ← getValueArgOf "--debug" "-D" false ""
    let modPath ← getValueArgOf "--mod" "-m" false ""
    return some ⟨asDaemon, confPath, logFilePath, listenAddr, listenPort, passP, debugLev, modPath⟩

/-- What the options of a line say, whatever their order and spelling. -/
def ClientOptions.of (uses : List Use) : ClientOptions :=
  ⟨has uses daemon, has uses retry, given uses conf, given uses log, given uses server, given uses Startup.serverPort,
    given uses passphrase, given uses listen, given uses Startup.listenPort, given uses debug, given uses mod⟩

def ServerOptions.of (uses : List Use) : ServerOptions :=
  ⟨has uses daemon, given uses conf, given uses log, given uses listen, given uses Startup.listenPort, given uses passphrase,
    given uses debug, given uses mod⟩

theorem table_client : Table clientTable := ⟨by decide, by decide⟩

theorem table_server : Table serverTable := ⟨by decide, by decide⟩

section
variable {uses : List Use}

theorem clientOptions_line (h : Line clientTable uses) (hh : has uses help = false) :
    clientOptions (line uses) = .ok (some (.of uses)) [] := by
  have ht := table_client
  have e₀ := takes_flag ht h (List.suffix_refl _) (o := help) rfl rfl
  rw [← clientTable, left_self h, hh] at e₀
  have e₁ := takes_flag ht h (o := daemon) ⟨[help], rfl⟩ rfl rfl
  have e₂ := takes_short_flag ht h (o := retry) ⟨[help, daemon], rfl⟩ rfl rfl
  have e₃ := takes_value ht h (o := conf) ⟨[help, daemon, retry], rfl⟩ rfl rfl
  have e₄ := takes_value ht h (o := log) ⟨clientTable.take 4, rfl⟩ rfl rfl
  have e₅ := takes_value ht h (o := server) ⟨clientTable.take 5, rfl⟩ rfl rfl
  have e₆ := takes_value ht h (o := serverPort) ⟨clientTable.take 6, rfl⟩ rfl rfl
  have e₇ := takes_value ht h (o := passphrase) ⟨clientTable.take 7, rfl⟩ rfl rfl
  have e₈ := takes_value ht h (o := listen) ⟨clientTable.take 8, rfl⟩ rfl rfl
  have e₉ := takes_value ht h (o := listenPort) ⟨clientTable.take 9, rfl⟩ rfl rfl
  have e₁₀ := takes_value ht h (o := debug) ⟨clientTable.take 10, rfl⟩ rfl rfl
  have e₁₁ := takes_value ht h (o := mod) ⟨clientTable.take 11, rfl⟩ rfl rfl
  rw [clientOptions, bind_of_ok e₀, if_neg (by simp), bind_of_ok e₁, bind_of_ok e₂, bind_of_ok e₃, bind_of_ok e₄,
    bind_of_ok e₅, bind_of_ok e₆, bind_of_ok e₇, bind_of_ok e₈, bind_of_ok e₉, bind_of_ok e₁₀, bind_of_ok e₁₁, left_nil]
  rfl

theorem serverOptions_line (h : Line serverTable uses) (hh : has uses help = false) :
    serverOptions (line uses) = .ok (some (.of uses)) [] := by
  have ht := table_server
  have e₀ := takes_flag ht h (List.suffix_refl _) (o := help) rfl rfl
  rw [← serverTable, left_self h, hh] at e₀
  have e₁ := takes_flag ht h (o := daemon) ⟨[help], rfl⟩ rfl rfl
  have e₂ := takes_value ht h (o := conf) ⟨[help, daemon], rfl⟩ rfl rfl
  have e₃ := takes_value ht h (o := log) ⟨[help, daemon, conf], rfl⟩ rfl rfl
  have e₄ := takes_value ht h (o := listen) ⟨serverTable.take 4, rfl⟩ rfl rfl
  have e₅ := takes_value ht h (o := listenPort) ⟨serverTable.take 5, rfl⟩ rfl rfl
  have e₆ := takes_value ht h (o := passphrase) ⟨serverTable.take 6, rfl⟩ rfl rfl
  have e₇ := takes_value ht h (o := debug) ⟨serverTable.take 7, rfl⟩ rfl rfl
  have e₈ := takes_value ht h (o := mod) ⟨serverTable.take 8, rfl⟩ rfl rfl
  rw [serverOptions, bind_of_ok e₀, if_neg (by simp), bind_of_ok e₁, bind_of_ok e₂, bind_of_ok e₃, bind_of_ok e₄,
    bind_of_ok e₅, bind_of_ok e₆, bind_of_ok e₇, bind_of_ok e₈, left_nil]
  rfl

theorem ClientOptions.of_perm {uses' : List Use} (h : Line clientTable uses) (hp : uses'.Perm uses) :
    ClientOptions.of uses' = .of uses := by
  simp only [ClientOptions.of, has_perm hp, given_perm h hp]

theorem ServerOptions.of_perm {uses' : List Use} (h : Line serverTable uses) (hp : uses'.Perm uses) :
    ServerOptions.of uses' = .of uses := by
  simp only [ServerOptions.of, has_perm hp, given_perm h hp]

/-- For every line of options of `skcli`, or of `sksrv`, without `--help`: by whichever of its two names an option is called,
whether its value stands behind a blank or an equals sign, and in whatever order the options stand, the program reads what was
given, and nothing is left. -/
theorem options_of_line {uses' : List Use} (hp : uses'.Perm uses) (hh : has uses help = false) :
    (Line clientTable uses → clientOptions (line uses') = .ok (some (.of uses)) []) ∧
      (Line serverTable uses → serverOptions (line uses') = .ok (some (.of uses)) []) := by
  have hh' : has uses' help = false := (has_perm hp help).trans hh
  constructor
  · intro h
    rw [clientOptions_line (h.perm hp) hh', ClientOptions.of_perm h hp]
  · intro h
    rw [serverOptions_line (h.perm hp) hh', ServerOptions.of_perm h hp]

end

/-- `-c NULL --listen=::0 -k --mod`, and the other way round. -/
def someUses : List Use :=
  [⟨conf, "-c", .spaced "NULL"⟩, ⟨listen, "--listen", .joined "::0"⟩, ⟨passphrase, "-k", .spaced "--mod"⟩]

theorem options_of_line_reversed : serverOptions ["-k", "--mod", "--listen=::0", "-c", "NULL"] =
    .ok (some ⟨false, "NULL", "", "::0", "", "--mod", "", ""⟩) [] := by
  have hline : Line serverTable someUses := ⟨by decide, by decide, by decide, by decide, by decide⟩
  exact (@options_of_line someUses someUses.reverse (List.reverse_perm _) (by decide)).2 hline

/-! ## The configuration -/

/-- `retryResolve` is `none` as long as nobody has set it. -/
structure ClientConfig where
  serverIp : String
  serverPort : UInt16
  passphrase : String
  bindIp : String
  bindPort : UInt16
  modulePath : String
  retryResolve : Option Bool
  debugLevel : Int
  logFile : String

/-- `boost::property_tree`: the nodes of a file as text by their path, the conversions of `get`, and what its exceptions
say. -/
structure Boost where
  readIni : String → Except String (String → Option String)
  toUint16 : String → Option UInt16
  toInt : String → Option Int
  noSuchNode : String → String
  badData : String → String

namespace Boost

variable (B : Boost) (tree : String → Option String)

def get (path : String) : Except Stop String :=
  match tree path with
  | some text => .ok text
  | none => .error (.exn (B.noSuchNode path))

def getUint16 (path : String) : Except Stop UInt16 := do
  let text ← B.get tree path
  match B.toUint16 text with
  | some n => .ok n
  | none => .error (.exn (B.badData path))

/-- With a default, nothing is thrown. -/
def getInt (path : String) (dflt : Int) : Int := ((tree path).bind B.toInt).getD dflt

end Boost

def ClientConfig.load (B : Boost) (confPath : String) : Except Stop ClientConfig := do
  let tree ← (B.readIni confPath).mapError .exn
  let serverIp ← B.get tree "server.ip"
  let serverPort ← B.getUint16 tree "server.port"
  let passphrase ← B.get tree "server.passphrase"
  let bindIp ← B.get tree "socks5.ip"
  let bindPort ← B.getUint16 tree "socks5.port"
  let modulePath ← B.get tree "core.module"
  let nxRetry ← B.get tree "core.nx_retry"
  return ⟨serverIp, serverPort, passphrase, bindIp, bindPort, modulePath, some (nxRetry = "true"),
    B.getInt tree "core.debugLevel" 1, (tree "core.logFile").getD ""⟩

def isSpace (c : Char) : Bool := c = ' ' || c = '\t' || c = '\n' || c = '\x0b' || c = '\x0c' || c = '\r'

def takeSign : List Char → Int × List Char
  | '-' :: text => (-1, text)
  | '+' :: text => (1, text)
  | text => (1, text)

/-- `std::stoi`: blanks, a sign, digits, and whatever comes behind them is ignored. -/
def stoi (str : String) : Except Stop Int :=
  let (sign, text) := takeSign (str.toList.dropWhile isSpace)
  let digits := text.takeWhile Char.isDigit
  let n := sign * digits.foldl (fun n c => 10 * n + (c.toNat - 48 : Nat)) 0
  if digits = [] ∨ n < -2 ^ 31 ∨ 2 ^ 31 ≤ n then .error (.exn "stoi") else .ok n

/-- The cast of an `int`. -/
def uint16 (n : Int) : UInt16 := UInt16.ofNat (n % 2 ^ 16).toNat

def setOr (value : String) (what : String) : Except Stop String := if value = "" then .error (.exn what) else .ok value

/-- `-c NULL`: everything must be on the command line. -/
def noConfig (o : ClientOptions) : Except Stop ClientConfig := do
  let serverIp ← setOr o.serverAddr "servAddr not set."
  let serverPort ← setOr o.serverPort "servPort not set." >>= stoi
  let passphrase ← setOr o.passP "passphrase not set."
  let bindIp ← setOr o.listenAddr "bindAddr not set."
  let bindPort ← setOr o.listenPort "bindPort not set." >>= stoi
  let debugLevel ← setOr o.debugLev "debugLevel not set." >>= stoi
  let modulePath ← setOr o.modPath "modulePath not set."
  return ⟨serverIp, uint16 serverPort, passphrase, bindIp, uint16 bindPort, modulePath, none, debugLevel, o.logFilePath⟩

def orGiven (old value : String) : String := if value = "" then old else value

def orStoi {α : Type} (old : α) (value : String) (cast : Int → α) : Except Stop α :=
  if value = "" then .ok old else cast <$> stoi value

/-- The file, and what is on the command line over it. -/
def withConfig (B : Boost) (o : ClientOptions) : Except Stop ClientConfig := do
  let conf ← ClientConfig.load B (if o.confPath = "" then "/etc/snakesocks/conf/client.conf" else o.confPath)
  let serverPort ← orStoi conf.serverPort o.serverPort uint16
  let bindPort ← orStoi conf.bindPort o.listenPort uint16
  let debugLevel ← orStoi conf.debugLevel o.debugLev id
  return ⟨orGiven conf.serverIp o.serverAddr, serverPort, orGiven conf.passphrase o.passP,
    orGiven conf.bindIp o.listenAddr, bindPort, orGiven conf.modulePath o.modPath, conf.retryResolve, debugLevel,
    orGiven conf.logFile o.logFilePath⟩

def clientConf (B : Boost) (o : ClientOptions) : Except Stop ClientConfig := do
  let conf ← (if o.confPath = "NULL" then noConfig o else withConfig B o)
  return if o.retryResolve then { conf with retryResolve := some true } else conf

/-! ## The tunnel to the server -/

/-- What one call of `resolveDomainOnce` comes to: an address, the exception of the resolver, or the one for an empty
answer. -/
inductive Lookup where
  | found (servAddr : IpAddress)
  | failed
  | empty

/-- The process waits for the resolver, or it is over. -/
inductive Halt where
  | waiting
  | stop (e : Stop)

/-- The state is what the resolver will say. -/
abbrev Boot := EStateM Halt (List Lookup)

def stopped {α : Type} (x : Except Stop α) : Boot α := fun evs =>
  match x with
  | .ok a => .ok a evs
  | .error e => .error (.stop e) evs

/-- `initCString`, up to the copy of the passphrase; the condition reads `nx_retry`. -/
def initCString (nxRetry : Option Bool) (serverAddr : String) : List Lookup → EStateM.Result Halt (List Lookup) IpAddress
  | [] => .error .waiting []
  | .found servAddr :: evs => .ok servAddr evs
  | .empty :: evs => .error (.stop (.exn ("BOOST Failed to resolve address " ++ serverAddr))) evs
  | .failed :: evs =>
    match nxRetry with
    | some true => initCString nxRetry serverAddr evs
    | some false => .error (.stop (.exn "resolve")) evs
    | none => .error (.stop (.fault .uninitialised)) evs

structure OutboundTunnel where
  serverAddr : String
  serverPort : UInt16
  passphrase : String
  nxRetry : Option Bool
  convServerAddr : IpAddress

def OutboundTunnel.make (addr : String) (port : UInt16) (pswdFromCfg : String) (nxRetry : Option Bool) :
    Boot OutboundTunnel := do
  let servAddr ← initCString nxRetry addr
  return ⟨addr, port, pswdFromCfg, nxRetry, servAddr⟩

/-- The move constructor does not mention `nx_retry`. -/
def OutboundTunnel.move (ano : OutboundTunnel) : Boot OutboundTunnel := do
  let servAddr ← initCString none ano.serverAddr
  return { ano with nxRetry := none, convServerAddr := servAddr }

/-! ## `main` -/

/-- What the process finds: files, shared objects by the symbols in them, whether `daemon` works, and which log files can be
opened. -/
structure World where
  boost : Boost
  dlopen : String → Option (List String)
  daemonises : Bool
  opens : String → Bool

/-- In the order in which `loadSo` asks for them. -/
def symbols : List String :=
  ["client_make_auth_query", "client_deal_auth_reply", "client_encode", "client_decode", "client_connection_close",
    "server_make_auth_reply", "server_encode", "server_decode", "server_connection_close"]

/-- The text of `dlerror` is left out of the messages. -/
def loadSo (W : World) (filePath : String) : Except Stop Unit :=
  match W.dlopen filePath with
  | none => .error (.exn ("dlopen failed to open shared object " ++ filePath))
  | some found =>
    match symbols.find? (· ∉ found) with
    | some name => .error (.exn ("Unable to locate symbol " ++ name ++ " in dylib " ++ filePath))
    | none => .ok ()

def checkLevel (debugLevel : Int) : Except Stop Unit :=
  if 0 ≤ debugLevel ∧ debugLevel ≤ 4 then .ok ()
  else .error (.exn ("Unknown log_level " ++ toString debugLevel ++ "."))

/-- A `Socks5Server` that listens. -/
structure Running where
  bindIp : String
  bindPort : UInt16
  skserver : OutboundTunnel

def skcliMain (W : World) (conf : ClientConfig) : Boot Running := do
  stopped (checkLevel conf.debugLevel)
  stopped (loadSo W conf.modulePath)
  let sks ← OutboundTunnel.make conf.serverIp conf.serverPort conf.passphrase conf.retryResolve
  let skserver ← sks.move
  return ⟨conf.bindIp, conf.bindPort, skserver⟩

/-- `daemon`, when it is asked for. -/
def daemonised (W : World) (o : ClientOptions) : Except Stop Unit :=
  if o.asDaemon && !W.daemonises then .error (.exn "Failed to launch daemon.") else .ok ()

def redirected (logFile : String) : String := "Log redirected to " ++ logFile ++ "."

/-- `rlog = rlib::logger(conf.logFile)`, and the line before it. -/
def openedLog (W : World) (logFile : String) : Except Stop Unit :=
  if logFile = "" then .ok ()
  else do
    (Rlib.logged (redirected logFile)).mapError .exn
    if W.opens logFile then .ok () else .error (.exn ("Failed to open file " ++ logFile ++ "."))

/-- `none` has printed the usage. -/
def wrappedMain (W : World) (args : List String) : Boot (Option Running) :=
  match clientOptions args with
  | .error e _ => stopped (.error e)
  | .ok none _ => return none
  | .ok (some o) _ => do
    let conf ← stopped (clientConf W.boost o)
    stopped (daemonised W o)
    stopped (openedLog W conf.logFile)
    some <$> skcliMain W conf

/-! ## Which runs get to `listen` -/

/-- Everything up to the tunnel is in order. -/
structure Configured (W : World) (o : ClientOptions) (conf : ClientConfig) : Prop where
  loaded : clientConf W.boost o = .ok conf
  daemon : o.asDaemon = true → W.daemonises = true
  log : conf.logFile ≠ "" → Rlib.places none (redirected conf.logFile).toList = 0 ∧ W.opens conf.logFile = true
  level : 0 ≤ conf.debugLevel ∧ conf.debugLevel ≤ 4
  module : loadSo W conf.modulePath = .ok ()

/-- The two constructors. -/
def tunnel (conf : ClientConfig) : Boot OutboundTunnel := do
  let sks ← OutboundTunnel.make conf.serverIp conf.serverPort conf.passphrase conf.retryResolve
  sks.move

/-- The run depends on a variable that was never set. -/
def ReadsUnset {α : Type} (r : EStateM.Result Halt (List Lookup) α) : Prop :=
  ∃ evs', r = .error (.stop (.fault .uninitialised)) evs'

/-- Only exceptions. -/
def Throws {α : Type} (x : Except Stop α) : Prop := ∀ e, x = .error e → ∃ what, e = .exn what

section
variable {α β : Type}

theorem readsUnset_error {e : Halt} {evs : List Lookup} :
    ReadsUnset (.error e evs : EStateM.Result Halt (List Lookup) α) ↔ e = .stop (.fault .uninitialised) := by
  simp [ReadsUnset]

theorem not_readsUnset_ok {a : α} {evs : List Lookup} : ¬ReadsUnset (.ok a evs) := by simp [ReadsUnset]

theorem throws_ok (a : α) : Throws (.ok a) := fun _ h => by cases h

theorem throws_exn (what : String) : Throws (.error (.exn what) : Except Stop α) := fun _ h => by
  cases h
  exact ⟨what, rfl⟩

theorem Throws.bind {x : Except Stop α} {f : α → Except Stop β} (hx : Throws x) (hf : ∀ a, Throws (f a)) :
    Throws (x >>= f) := by
  intro e h
  cases x with
  | ok a => exact hf a e h
  | error e' => exact hx e (by cases h; rfl)

theorem throws_setOr (value what : String) : Throws (setOr value what) := by
  unfold setOr
  split
  · exact throws_exn what
  · exact throws_ok value

theorem throws_stoi (str : String) : Throws (stoi str) := by
  unfold stoi
  simp only
  split
  · exact throws_exn _
  · exact throws_ok _

theorem throws_get (B : Boost) (tree : String → Option String) (path : String) : Throws (B.get tree path) := by
  unfold Boost.get
  split
  · exact throws_ok _
  · exact throws_exn _

theorem throws_getUint16 (B : Boost) (tree : String → Option String) (path : String) : Throws (B.getUint16 tree path) := by
  refine (throws_get B tree path).bind fun text => ?_
  split
  · exact throws_ok _
  · exact throws_exn _

theorem throws_orStoi (old : α) (value : String) (cast : Int → α) : Throws (orStoi old value cast) := by
  unfold orStoi
  split
  · exact throws_ok old
  · exact (throws_stoi value).bind fun n => throws_ok (cast n)

theorem throws_load (B : Boost) (confPath : String) : Throws (ClientConfig.load B confPath) := by
  have hread : Throws ((B.readIni confPath).mapError Stop.exn) := by
    cases B.readIni confPath with
    | ok tree => exact throws_ok tree
    | error what => exact throws_exn what
  refine hread.bind fun tree => ?_
  refine (throws_get B tree _).bind fun _ => (throws_getUint16 B tree _).bind fun _ => ?_
  refine (throws_get B tree _).bind fun _ => (throws_get B tree _).bind fun _ => ?_
  refine (throws_getUint16 B tree _).bind fun _ => (throws_get B tree _).bind fun _ => ?_
  exact (throws_get B tree _).bind fun _ => throws_ok _

theorem throws_noConfig (o : ClientOptions) : Throws (noConfig o) := by
  refine (throws_setOr _ _).bind fun _ => ((throws_setOr _ _).bind throws_stoi).bind fun _ => ?_
  refine (throws_setOr _ _).bind fun _ => (throws_setOr _ _).bind fun _ => ?_
  refine ((throws_setOr _ _).bind throws_stoi).bind fun _ => ((throws_setOr _ _).bind throws_stoi).bind fun _ => ?_
  exact (throws_setOr _ _).bind fun _ => throws_ok _

theorem throws_withConfig (B : Boost) (o : ClientOptions) : Throws (withConfig B o) := by
  refine (throws_load B _).bind fun _ => (throws_orStoi _ _ _).bind fun _ => ?_
  exact (throws_orStoi _ _ _).bind fun _ => (throws_orStoi _ _ _).bind fun _ => throws_ok _

theorem throws_clientConf (B : Boost) (o : ClientOptions) : Throws (clientConf B o) := by
  have hload : Throws (if o.confPath = "NULL" then noConfig o else withConfig B o) := by
    split
    · exact throws_noConfig o
    · exact throws_withConfig B o
  exact hload.bind fun conf => throws_ok _

end

section
variable {uses : List Use} {W : World} {conf : ClientConfig} {evs evs' : List Lookup} {r : Option Bool} {addr : String}

/-- A tunnel that was told to waits failures out. -/
theorem initCString_retries {servAddr : IpAddress} : initCString (some true) addr evs = .ok servAddr evs' ↔
    ∃ n, evs = List.replicate n .failed ++ .found servAddr :: evs' := by
  induction evs with
  | nil =>
    refine iff_of_false (by simp [initCString]) ?_
    rintro ⟨n, h⟩
    simp at h
  | cons ev evs ih =>
    cases ev with
    | found A =>
      constructor
      · intro h
        cases h
        exact ⟨0, rfl⟩
      · rintro ⟨n, h⟩
        cases n <;> cases h
        rfl
    | empty =>
      refine iff_of_false (by simp [initCString]) ?_
      rintro ⟨n, h⟩
      cases n <;> cases h
    | failed =>
      rw [show initCString (some true) addr (.failed :: evs) = initCString (some true) addr evs from rfl, ih]
      constructor
      · rintro ⟨n, rfl⟩
        exact ⟨n + 1, rfl⟩
      · rintro ⟨n, h⟩
        cases n with
        | zero => cases h
        | succ n => exact ⟨n, (List.cons.inj h).2⟩

/-- Any other gives up at the first one. -/
theorem initCString_at_once (hr : r ≠ some true) {servAddr : IpAddress} :
    initCString r addr evs = .ok servAddr evs' ↔ evs = .found servAddr :: evs' := by
  cases evs with
  | nil => simp [initCString]
  | cons ev evs =>
    cases ev with
    | found A => simp [initCString]
    | empty => simp [initCString]
    | failed =>
      match r with
      | none => simp [initCString]
      | some false => simp [initCString]
      | some true => exact absurd rfl hr

theorem initCString_ok_iff {servAddr : IpAddress} : initCString r addr evs = .ok servAddr evs' ↔
    ∃ n, evs = List.replicate n .failed ++ .found servAddr :: evs' ∧ (n = 0 ∨ r = some true) := by
  by_cases hr : r = some true
  · subst hr
    simp [initCString_retries]
  · simp [initCString_at_once hr, hr]

/-- The value of the condition was never set. -/
theorem initCString_readsUnset (r : Option Bool) (addr : String) (evs : List Lookup) :
    ReadsUnset (initCString r addr evs) ↔ r = none ∧ ∃ rest, evs = .failed :: rest := by
  induction evs with
  | nil => simp [initCString, ReadsUnset]
  | cons ev evs ih =>
    cases ev with
    | found A => simp [initCString, ReadsUnset]
    | empty => simp [initCString, ReadsUnset]
    | failed =>
      match r with
      | none => simp [initCString, ReadsUnset]
      | some false => simp [initCString, ReadsUnset]
      | some true =>
        rw [show initCString (some true) addr (.failed :: evs) = initCString (some true) addr evs from rfl, ih]
        simp

theorem tunnel_of_ok {A : IpAddress} (h : initCString conf.retryResolve conf.serverIp evs = .ok A evs') :
    tunnel conf evs =
      OutboundTunnel.move ⟨conf.serverIp, conf.serverPort, conf.passphrase, conf.retryResolve, A⟩ evs' := by
  have hmake : OutboundTunnel.make conf.serverIp conf.serverPort conf.passphrase conf.retryResolve evs =
      .ok ⟨conf.serverIp, conf.serverPort, conf.passphrase, conf.retryResolve, A⟩ evs' := by
    rw [OutboundTunnel.make, bind_of_ok h]
    rfl
  rw [tunnel, bind_of_ok hmake]

theorem tunnel_of_error {e : Halt} (h : initCString conf.retryResolve conf.serverIp evs = .error e evs') :
    tunnel conf evs = .error e evs' := by
  have hmake : OutboundTunnel.make conf.serverIp conf.serverPort conf.passphrase conf.retryResolve evs = .error e evs' := by
    rw [OutboundTunnel.make, bind_of_error h]
  rw [tunnel, bind_of_error hmake]

theorem move_readsUnset (ano : OutboundTunnel) (evs : List Lookup) :
    ReadsUnset (ano.move evs) ↔ ∃ rest, evs = .failed :: rest := by
  have hunset := initCString_readsUnset none ano.serverAddr evs
  simp only [true_and] at hunset
  rw [← hunset]
  cases hc : initCString none ano.serverAddr evs with
  | error e evs₁ => rw [OutboundTunnel.move, bind_of_error hc, readsUnset_error, readsUnset_error]
  | ok B evs₁ =>
    rw [OutboundTunnel.move, bind_of_ok hc]
    exact iff_of_false not_readsUnset_ok not_readsUnset_ok

/-- Both constructors get an address. -/
theorem tunnel_ok_iff : (∃ sks evs', tunnel conf evs = .ok sks evs') ↔ ∃ n A B rest,
    evs = List.replicate n .failed ++ .found A :: .found B :: rest ∧ (n = 0 ∨ conf.retryResolve = some true) := by
  constructor
  · rintro ⟨sks, evs', h⟩
    cases hc : initCString conf.retryResolve conf.serverIp evs with
    | error e evs₁ =>
      rw [tunnel_of_error hc] at h
      cases h
    | ok A evs₁ =>
      rw [tunnel_of_ok hc] at h
      obtain ⟨B, evs₂, e₂, -⟩ := of_bind_eq_ok h
      obtain ⟨n, rfl, hn⟩ := initCString_ok_iff.1 hc
      rw [initCString_at_once (by simp)] at e₂
      exact ⟨n, A, B, evs₂, by rw [e₂], hn⟩
  · rintro ⟨n, A, B, rest, rfl, hn⟩
    have e₁ := (@initCString_ok_iff _ (.found B :: rest) conf.retryResolve conf.serverIp A).2 ⟨n, rfl, hn⟩
    rw [tunnel_of_ok e₁]
    exact ⟨_, rest, rfl⟩

/-- The one condition was never set, or the other one. -/
theorem tunnel_readsUnset : ReadsUnset (tunnel conf evs) ↔
    (conf.retryResolve = none ∧ ∃ rest, evs = .failed :: rest) ∨ ∃ n A rest,
      evs = List.replicate n .failed ++ .found A :: .failed :: rest ∧ (n = 0 ∨ conf.retryResolve = some true) := by
  rw [← initCString_readsUnset _ conf.serverIp]
  cases hc : initCString conf.retryResolve conf.serverIp evs with
  | error e evs₁ =>
    rw [tunnel_of_error hc, readsUnset_error, readsUnset_error, or_iff_left]
    rintro ⟨n, A, rest, hevs, hn⟩
    rw [initCString_ok_iff.2 ⟨n, hevs, hn⟩] at hc
    cases hc
  | ok A evs₁ =>
    obtain ⟨n, rfl, hn⟩ := initCString_ok_iff.1 hc
    rw [tunnel_of_ok hc, or_iff_right not_readsUnset_ok, move_readsUnset]
    constructor
    · rintro ⟨rest, rfl⟩
      exact ⟨n, A, rest, rfl, hn⟩
    · rintro ⟨n', A', rest, heq, -⟩
      -- the script up to the first address is the same
      have hsame := (@initCString_retries _ _ "" A').2 ⟨n', heq⟩
      rw [initCString_retries.2 ⟨n, rfl⟩] at hsame
      cases hsame
      exact ⟨rest, rfl⟩

theorem stopped_ok {α : Type} {x : Except Stop α} {a : α} (h : x = .ok a) (evs : List Lookup) :
    stopped x evs = .ok a evs := by
  subst h
  rfl

theorem stopped_error {α : Type} {x : Except Stop α} {e : Stop} (h : x = .error e) (evs : List Lookup) :
    stopped x evs = .error (.stop e) evs := by
  subst h
  rfl

theorem skcliMain_eq (W : World) (conf : ClientConfig) : some <$> skcliMain W conf = (do
    stopped (checkLevel conf.debugLevel)
    stopped (loadSo W conf.modulePath)
    tunnel conf >>= fun skserver => pure (some ⟨conf.bindIp, conf.bindPort, skserver⟩)) := by
  simp only [skcliMain, tunnel, map_bind, map_pure, bind_assoc]

theorem wrappedMain_eq (h : Line clientTable uses) (hh : has uses help = false) : wrappedMain W (line uses) = (do
    let conf ← stopped (clientConf W.boost (.of uses))
    stopped (daemonised W (.of uses))
    stopped (openedLog W conf.logFile)
    stopped (checkLevel conf.debugLevel)
    stopped (loadSo W conf.modulePath)
    tunnel conf >>= fun skserver => pure (some ⟨conf.bindIp, conf.bindPort, skserver⟩)) := by
  simp only [wrappedMain, clientOptions_line h hh, skcliMain_eq]

theorem daemonised_eq_ok {o : ClientOptions} : daemonised W o = .ok () ↔ (o.asDaemon = true → W.daemonises = true) := by
  unfold daemonised
  cases o.asDaemon <;> cases W.daemonises <;> simp

/-- A log file is named without a placeholder and can be opened, or there is none. -/
theorem openedLog_eq_ok {logFile : String} : openedLog W logFile = .ok () ↔
    (logFile ≠ "" → Rlib.places none (redirected logFile).toList = 0 ∧ W.opens logFile = true) := by
  unfold openedLog
  by_cases hlog : logFile = ""
  · simp [hlog]
  · rw [if_neg hlog, forall_prop_of_true hlog]
    by_cases hp : Rlib.places none (redirected logFile).toList = 0
    · rw [Rlib.logged_of_places hp]
      cases hopen : W.opens logFile with
      | true => exact iff_of_true rfl ⟨hp, rfl⟩
      | false => exact iff_of_false nofun nofun
    · refine iff_of_false (fun h => ?_) fun h => hp h.1
      obtain ⟨_, hl, -⟩ := bind_eq_ok.1 h
      refine hp (Rlib.places_of_logged ?_)
      cases hr : Rlib.logged (redirected logFile) with
      | ok u => rfl
      | error what =>
        rw [hr] at hl
        cases hl

theorem throws_openedLog (logFile : String) : Throws (openedLog W logFile) := by
  unfold openedLog
  split
  · exact throws_ok _
  · have hline : Throws ((Rlib.logged (redirected logFile)).mapError Stop.exn) := by
      cases Rlib.logged (redirected logFile) with
      | ok u => exact throws_ok u
      | error what => exact throws_exn what
    refine hline.bind fun _ => ?_
    split
    · exact throws_ok _
    · exact throws_exn _

theorem throws_daemonised (o : ClientOptions) : Throws (daemonised W o) := by
  unfold daemonised
  split
  · exact throws_exn _
  · exact throws_ok _

theorem throws_checkLevel (n : Int) : Throws (checkLevel n) := by
  unfold checkLevel
  split
  · exact throws_ok _
  · exact throws_exn _

theorem throws_loadSo (path : String) : Throws (loadSo W path) := by
  unfold loadSo
  split
  · exact throws_exn _
  · split
    · exact throws_exn _
    · exact throws_ok _

theorem checkLevel_eq_ok {n : Int} (h : checkLevel n = .ok ()) : 0 ≤ n ∧ n ≤ 4 := by
  unfold checkLevel at h
  split at h
  · assumption
  · cases h

/-- With everything else in order, the run is that of the tunnel. -/
theorem wrappedMain_configured (h : Line clientTable uses) (hh : has uses help = false)
    (hc : Configured W (.of uses) conf) :
    wrappedMain W (line uses) evs =
      (tunnel conf >>= fun skserver => pure (some ⟨conf.bindIp, conf.bindPort, skserver⟩)) evs := by
  have hl : checkLevel conf.debugLevel = .ok () := if_pos hc.level
  rw [wrappedMain_eq h hh, bind_of_ok (stopped_ok hc.loaded evs), bind_of_ok (stopped_ok (daemonised_eq_ok.2 hc.daemon) evs),
    bind_of_ok (stopped_ok (openedLog_eq_ok.2 hc.log) evs), bind_of_ok (stopped_ok hl evs),
    bind_of_ok (stopped_ok hc.module evs)]

/-- There is one configuration. -/
theorem exists_configured_iff {o : ClientOptions} {p : ClientConfig → Prop} (hc : Configured W o conf) :
    (∃ c, Configured W o c ∧ p c) ↔ p conf := by
  constructor
  · rintro ⟨c, hc', hp⟩
    have heq : c = conf := Except.ok.inj (hc'.loaded.symm.trans hc.loaded)
    exact heq ▸ hp
  · intro hp
    exact ⟨conf, hc, hp⟩

theorem started_configured (h : Line clientTable uses) (hh : has uses help = false) (hc : Configured W (.of uses) conf) :
    (∃ running evs', wrappedMain W (line uses) evs = .ok (some running) evs') ↔ ∃ sks evs', tunnel conf evs = .ok sks evs' := by
  rw [wrappedMain_configured h hh hc]
  cases ht : tunnel conf evs with
  | ok sks evs₁ =>
    rw [bind_of_ok ht]
    exact iff_of_true ⟨_, evs₁, rfl⟩ ⟨sks, evs₁, rfl⟩
  | error e evs₁ =>
    rw [bind_of_error ht]
    simp

theorem readsUnset_configured (h : Line clientTable uses) (hh : has uses help = false)
    (hc : Configured W (.of uses) conf) : ReadsUnset (wrappedMain W (line uses) evs) ↔ ReadsUnset (tunnel conf evs) := by
  rw [wrappedMain_configured h hh hc]
  cases ht : tunnel conf evs with
  | ok sks evs₁ =>
    rw [bind_of_ok ht]
    exact iff_of_false not_readsUnset_ok not_readsUnset_ok
  | error e evs₁ => rw [bind_of_error ht, readsUnset_error, readsUnset_error]

/-- An exception in a step before the tunnel. -/
theorem stopped_throws {α β : Type} {x : Except Stop α} (hx : Throws x) (f : α → Boot β) :
    (∃ what, (stopped x >>= f) evs = .error (.stop (.exn what)) evs) ∨ ∃ a, x = .ok a ∧ (stopped x >>= f) evs = f a evs := by
  cases hr : x with
  | error e =>
    obtain ⟨what, rfl⟩ := hx e hr
    exact .inl ⟨what, bind_of_error (stopped_error rfl evs)⟩
  | ok a => exact .inr ⟨a, rfl, bind_of_ok (stopped_ok rfl evs)⟩

/-- Otherwise it ends in an exception before it gets there. -/
theorem wrappedMain_unconfigured (h : Line clientTable uses) (hh : has uses help = false)
    (hc : ¬∃ conf, Configured W (.of uses) conf) :
    ∃ what, wrappedMain W (line uses) evs = .error (.stop (.exn what)) evs := by
  rw [wrappedMain_eq h hh]
  rcases stopped_throws (throws_clientConf _ _) _ with he | ⟨conf, hconf, e⟩
  · exact he
  rw [e]
  rcases stopped_throws (throws_daemonised _) _ with he | ⟨_, hd, e⟩
  · exact he
  rw [e]
  rcases stopped_throws (throws_openedLog _) _ with he | ⟨_, ho, e⟩
  · exact he
  rw [e]
  rcases stopped_throws (throws_checkLevel _) _ with he | ⟨_, hl, e⟩
  · exact he
  rw [e]
  rcases stopped_throws (throws_loadSo _) _ with he | ⟨_, hm, e⟩
  · exact he
  · exact absurd ⟨conf, hconf, daemonised_eq_ok.1 hd, openedLog_eq_ok.1 ho, checkLevel_eq_ok hl, hm⟩ hc

/-- Without a file, only the command line sets `retryResolve`. -/
theorem noConfig_retry {o : ClientOptions} (hnull : o.confPath = "NULL") (h : clientConf W.boost o = .ok conf) :
    conf.retryResolve = if o.retryResolve then some true else none := by
  rw [clientConf, if_pos hnull] at h
  obtain ⟨c, hc, h⟩ := bind_eq_ok.1 h
  have hnone : c.retryResolve = none := by
    unfold noConfig at hc
    obtain ⟨_, -, hc⟩ := bind_eq_ok.1 hc
    obtain ⟨_, -, hc⟩ := bind_eq_ok.1 hc
    obtain ⟨_, -, hc⟩ := bind_eq_ok.1 hc
    obtain ⟨_, -, hc⟩ := bind_eq_ok.1 hc
    obtain ⟨_, -, hc⟩ := bind_eq_ok.1 hc
    obtain ⟨_, -, hc⟩ := bind_eq_ok.1 hc
    obtain ⟨_, -, hc⟩ := bind_eq_ok.1 hc
    cases hc
    rfl
  cases h
  split
  · rfl
  · exact hnone

end

/-- Everything on the command line, and `--retry`. -/
def retryUses : List Use :=
  [⟨retry, "--retry", .bare⟩, ⟨conf, "-c", .spaced "NULL"⟩, ⟨server, "-s", .spaced "relay"⟩, ⟨serverPort, "-p", .spaced "443"⟩,
    ⟨passphrase, "-k", .spaced "secret"⟩, ⟨listen, "-L", .spaced "::1"⟩, ⟨listenPort, "-P", .spaced "1080"⟩,
    ⟨debug, "-D", .spaced "1"⟩, ⟨mod, "-m", .spaced "se.so"⟩]

/-- No file, one module, no daemon. -/
def bareWorld : World where
  boost := ⟨fun _ => .error "cannot open file", fun _ => none, fun _ => none, id, id⟩
  dlopen path := if path = "se.so" then some symbols else none
  daemonises := false
  opens _ := false

end SnakeSocks.Startup
