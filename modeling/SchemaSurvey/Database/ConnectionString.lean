/-
  `ConnectionString` — the strings that name a database.

  A connection string has one of two forms. A URL names user, hosts and database in the usual places
  and further settings as parameters; any other string is a list of settings `key = value`, whose
  values may be quoted. Only what decides whether a connection can be tried is kept: the hosts,
  their addresses and their ports. Every other setting is checked and dropped.

  Reading a string says where to connect (`Endpoints.ofString`), or that the string is malformed, or
  that what it says makes no sense.
-/
import SchemaSurvey.Database.IpAddress
import SchemaSurvey.Failure
import SchemaSurvey.Text.Blank
import SchemaSurvey.Text.PercentCoding

namespace SchemaSurvey.Database

/-- Why no connection comes about. -/
inductive ConnectionError where
  /-- The string cannot be read. -/
  | malformed
  /-- The string does not say where to connect. -/
  | unusable
  /-- Nobody listens there. -/
  | unreachable
deriving DecidableEq

/-- The failure to report. -/
def ConnectionError.toFailure (e : ConnectionError) : Failure :=
  ⟨.catalog, "catalog_unavailable",
    match e with
    | malformed => "invalid connection string"
    | unusable => "invalid configuration"
    | unreachable => "error connecting to server"⟩

/-! ### Settings -/

/-- Where to connect. -/
structure Endpoints where
  hosts : List String := []
  /-- Network addresses of the hosts. -/
  addresses : List String := []
  ports : List Nat := []
deriving DecidableEq

/-- The port of a server that names none. -/
def defaultPort : Nat := 5432

/-- The number that some digits write. -/
def digitsValue? (digits : List Char) : Option Nat :=
  if digits.isEmpty || !digits.all Char.isDigit then none
  else some (digits.foldl (fun n c => 10 * n + (c.toNat - '0'.toNat)) 0)

/-- The value of an unsigned number of at most `bits` bits; it may have a plus sign. -/
def natural? (bits : Nat) (s : String) : Option Nat :=
  let value? := match s.toList with
    | '+' :: digits => digitsValue? digits
    | digits => digitsValue? digits
  value?.filter (· < Nat.pow 2 bits)

/-- Whether a text is a signed number of 64 bits. -/
def isInteger (s : String) : Bool :=
  match s.toList with
  | '-' :: digits => (digitsValue? digits).any (· ≤ 0x8000000000000000)
  | _ => (natural? 63 s).isSome

/-- What a setting may be given. -/
inductive SettingKind where
  | text
  | word (choices : List String)
  | integer
  | natural (bits : Nat)
  /-- Names of hosts, set apart by commas. -/
  | hosts
  /-- Network addresses, set apart by commas. -/
  | addresses
  /-- Port numbers, set apart by commas; an empty one is the default port. -/
  | ports

/-- The settings there are. -/
def settings : List (String × SettingKind) :=
  [("user", .text), ("password", .text), ("dbname", .text), ("options", .text),
    ("application_name", .text), ("sslmode", .word ["disable", "prefer", "require"]),
    ("sslnegotiation", .word ["postgres", "direct"]), ("host", .hosts), ("hostaddr", .addresses),
    ("port", .ports), ("connect_timeout", .integer), ("tcp_user_timeout", .integer),
    ("keepalives", .natural 64), ("keepalives_idle", .integer), ("keepalives_interval", .integer),
    ("keepalives_retries", .natural 32),
    ("target_session_attrs", .word ["any", "read-write", "read-only"]),
    ("channel_binding", .word ["disable", "prefer", "require"]),
    ("load_balance_hosts", .word ["disable", "random"])]

namespace Endpoints

/-- Adds hosts. -/
def addHosts (e : Endpoints) (hosts : List String) : Endpoints :=
  { e with hosts := e.hosts ++ hosts }

/-- Adds the ports of a list set apart by commas. -/
def addPorts? (e : Endpoints) (value : String) : Option Endpoints := do
  let ports ← (value.splitOn ",").mapM fun port =>
    if port.isEmpty then some defaultPort else natural? 16 port
  some { e with ports := e.ports ++ ports }

/-- Takes a setting, if there is such a setting and its value is admissible. -/
def set? (e : Endpoints) (key value : String) : Option Endpoints := do
  let accept (admissible : Bool) : Option Endpoints := if admissible then some e else none
  match ← settings.lookup key with
  | .text => some e
  | .word choices => accept (choices.contains value)
  | .integer => accept (isInteger value)
  | .natural bits => accept (natural? bits value).isSome
  | .hosts => some (e.addHosts (value.splitOn ","))
  | .addresses =>
    let addresses := value.splitOn ","
    if addresses.all IpAddress.isAddress then some { e with addresses := e.addresses ++ addresses }
    else none
  | .ports => e.addPorts? value

/-- Takes settings in order. -/
def setAll? : Endpoints → List (String × String) → Option Endpoints
  | e, [] => some e
  | e, (key, value) :: rest => do setAll? (← e.set? key value) rest

end Endpoints

/-! ### Lists of settings -/

/-- Takes a value that ends with a quote; a backslash keeps the character after it as it is. -/
def takeQuoted? : List Char → Option (List Char × List Char)
  | [] => none
  | '\'' :: rest => some ([], rest)
  | ['\\'] => none
  | '\\' :: c :: rest => (takeQuoted? rest).map fun (value, after) => (c :: value, after)
  | c :: rest => (takeQuoted? rest).map fun (value, after) => (c :: value, after)

/-- Takes a value that ends before white space; a backslash keeps the character after it as it is.
-/
def takePlain : List Char → List Char × List Char
  | [] => ([], [])
  | ['\\'] => ([], [])
  | '\\' :: c :: rest =>
    let (value, after) := takePlain rest
    (c :: value, after)
  | c :: rest =>
    if Text.isBlank c then ([], c :: rest)
    else
      let (value, after) := takePlain rest
      (c :: value, after)

/-- Takes a value. One without quotes is not empty. -/
def takeValue? : List Char → Option (List Char × List Char)
  | '\'' :: rest => takeQuoted? rest
  | cs =>
    match takePlain cs with
    | ([], _) => none
    | found => some found

theorem length_of_takeQuoted? {cs value after : List Char}
    (h : takeQuoted? cs = some (value, after)) : after.length ≤ cs.length := by
  fun_induction takeQuoted? cs generalizing value with
  | case1 | case3 => simp at h
  | case2 rest => simp_all
  | case4 c rest ih | case5 c rest _ _ _ ih =>
    obtain ⟨⟨v, a⟩, hv, heq⟩ := Option.map_eq_some_iff.1 h
    obtain ⟨-, rfl⟩ := Prod.mk.inj heq
    have := ih hv
    simp only [List.length_cons]
    omega

theorem length_takePlain (cs : List Char) : (takePlain cs).2.length ≤ cs.length := by
  fun_induction takePlain cs <;> simp_all <;> omega

theorem length_of_takeValue? {cs value after : List Char}
    (h : takeValue? cs = some (value, after)) : after.length ≤ cs.length := by
  unfold takeValue? at h
  split at h
  · have := length_of_takeQuoted? h
    simp
    omega
  · split at h
    · simp at h
    · have := length_takePlain cs
      simp_all

theorem length_dropWhile_le {α : Type} (p : α → Bool) (l : List α) :
    (l.dropWhile p).length ≤ l.length :=
  (List.dropWhile_suffix p).length_le

/-- Reads settings up to the end of the string or an empty key. -/
def readSettings? (cs : List Char) : Option (List (String × String)) :=
  let isOfKey := fun c => !Text.isBlank c && c != '='
  let start := cs.dropWhile Text.isBlank
  let key := start.takeWhile isOfKey
  if key = [] then some []
  else
    match _hEq : (start.dropWhile isOfKey).dropWhile Text.isBlank with
    | '=' :: rest =>
      match _hValue : takeValue? (rest.dropWhile Text.isBlank) with
      | some (value, after) =>
        (readSettings? after).map ((String.ofList key, String.ofList value) :: ·)
      | none => none
    | _ => none
termination_by cs.length
decreasing_by
  have hValue_le := length_of_takeValue? _hValue
  have rest_le := length_dropWhile_le Text.isBlank rest
  have eq_le := length_dropWhile_le Text.isBlank (start.dropWhile isOfKey)
  have key_le := length_dropWhile_le isOfKey start
  have start_le : start.length ≤ cs.length := length_dropWhile_le Text.isBlank cs
  rw [_hEq, List.length_cons] at eq_le
  omega

/-! ### URLs -/

/-- The beginnings of URLs. -/
def urlStarts : List String := ["postgres://", "postgresql://"]

/-- What follows the beginning of a URL. -/
def afterUrlStart? (cs : List Char) : Option (List Char) :=
  (urlStarts.find? fun start => start.toList.isPrefixOf cs).map fun start => cs.drop start.length

/-- Decodes a part of a URL. -/
def decode? (cs : List Char) : Option String := Text.percentDecode? (String.ofList cs)

/-- Decodes the name of a host. A name that begins with a slash is that of a socket in a directory,
which may be any bytes. -/
def decodeHost? (cs : List Char) : Option String :=
  let written := String.ofList cs
  if (Text.percentDecodeBytes written.toUTF8.toList).head? = some 0x2f then some written
  else Text.percentDecode? written

/-- Parts set apart by a character. -/
def splitOnChar (mark : Char) : List Char → List (List Char)
  | [] => [[]]
  | c :: cs =>
    match splitOnChar mark cs with
    | [] => [[c]]
    | part :: parts => if c = mark then [] :: part :: parts else (c :: part) :: parts

/-- Splits a host from its port, if one is named. A host in brackets may hold colons. -/
def splitPort? : List Char → Option (List Char × Option (List Char))
  | '[' :: cs => do
    let host := cs.takeWhile (· != ']')
    match cs.drop host.length with
    | [']'] => some (host, none)
    | ']' :: ':' :: port => some (host, some port)
    | _ => none
  | cs =>
    let host := cs.takeWhile (· != ':')
    match cs.drop host.length with
    | _ :: port => some (host, some port)
    | [] => some (host, none)

namespace Endpoints

/-- Takes a host and its port. -/
def addHost? (e : Endpoints) (part : List Char) : Option Endpoints := do
  let (host, port?) ← splitPort? part
  let e := e.addHosts [← decodeHost? host]
  match port? with
  | some port => e.addPorts? (← decode? port)
  | none => some { e with ports := e.ports ++ [defaultPort] }

/-- Takes a setting from the parameters of a URL, where a host is a single host. -/
def setParameter? (e : Endpoints) (key value : List Char) : Option Endpoints := do
  let key ← decode? key
  if key = "host" then some (e.addHosts [← decodeHost? value])
  else e.set? key (← decode? value)

/-- Takes the parameters of a URL: keys, each with `=` and a value up to the next `&`. -/
def setParameters? (e : Endpoints) (cs : List Char) : Option Endpoints :=
  if cs = [] then some e
  else
    match h : cs.dropWhile (· != '=') with
    | _ :: rest => do
      let value := rest.takeWhile (· != '&')
      let e ← e.setParameter? (cs.takeWhile (· != '=')) value
      setParameters? e (rest.drop (value.length + 1))
    | [] => none
termination_by cs.length
decreasing_by
  have h₁ := (List.dropWhile_suffix (· != '=') (l := cs)).length_le
  have h₂ := congrArg List.length h
  simp only [List.length_cons, List.length_drop] at h₂ ⊢
  omega

/-- Reads what follows the beginning of a URL: credentials, hosts, database and parameters. -/
def ofUrl? (cs : List Char) : Option Endpoints := do
  let credentials := cs.takeWhile (· != '@')
  let hasCredentials := credentials.length < cs.length
  if hasCredentials then
    let _ ← decode? (credentials.takeWhile (· != ':'))
  let cs := if hasCredentials then cs.drop (credentials.length + 1) else cs
  let hosts := cs.takeWhile fun c => c != '/' && c != '?'
  let e ← if hosts = [] then some {} else (splitOnChar ',' hosts).foldlM addHost? {}
  let path := (cs.drop hosts.length).takeWhile (· != '?')
  let _ ← decode? (path.drop 1)
  e.setParameters? (cs.drop (hosts.length + path.length + 1))

/-- Reads a connection string of either form. -/
def read? (s : String) : Option Endpoints :=
  match afterUrlStart? s.toList with
  | some cs => ofUrl? cs
  | none => do setAll? {} (← readSettings? s.toList)

/-- Whether it is clear where to connect: there is a host or an address, every host has its address
if any has, and there is one port for all or one for each. -/
def isUsable (e : Endpoints) : Bool :=
  let places := if e.hosts.isEmpty then e.addresses.length else e.hosts.length
  places != 0
    && (e.ports.length ≤ 1 || e.ports.length == places)
    && (e.hosts.isEmpty || e.addresses.isEmpty || e.hosts.length == e.addresses.length)

/-- Where a connection string says to connect. -/
def ofString (s : String) : Except ConnectionError Endpoints :=
  match read? s with
  | none => .error .malformed
  | some e => if e.isUsable then .ok e else .error .unusable

end Endpoints

end SchemaSurvey.Database
