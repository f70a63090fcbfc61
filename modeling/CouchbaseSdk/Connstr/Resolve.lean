import CouchbaseSdk.Connstr.ConnSpec

/-!
# Resolving connection strings

What a connection string says becomes the addresses of the seeds.  A single host without a port is
looked up first, unless it is an address.
-/

namespace CouchbaseSdk
namespace Connstr

open Foundation

/-!
# Addresses of hosts
-/

/-- The digits in front of a text, and what is behind them. -/
def readDigits (isDigit : Char -> Bool) (maxDigits : Nat) (text : Text) : Option (Text × Text) :=
  let digits := text.takeWhile isDigit
  if digits = [] ∨ maxDigits < digits.length then none
  else some (digits, text.drop digits.length)

/-- A number below 256 without zeros in front, and what is behind it. -/
def readOctet (text : Text) : Option Text :=
  (readDigits Char.isDigit 3 text).bind fun (digits, rest) =>
    if digits.head? = some '0' ∧ 1 < digits.length then none
    else if Nat.ofDigitChars 10 digits 0 < 256 then some rest
    else none

def isHexDigit (c : Char) : Bool :=
  c.isDigit || 'a' ≤ c && c ≤ 'f' || 'A' ≤ c && c ≤ 'F'

def readGroup (text : Text) : Option Text :=
  (readDigits isHexDigit 4 text).map Prod.snd

/-- All but the first are behind a separator. -/
def readSeparator (separator : Char) (index : Nat) (read : Text -> Option Text) (text : Text) :
    Option Text :=
  if 0 < index then
    match text with
    | c :: rest => if c = separator then read rest else none
    | [] => none
  else read text

def readIpv4Addr (text : Text) : Option Text :=
  [0, 1, 2, 3].foldlM (fun text index => readSeparator '.' index readOctet text) text

/-- How many groups there are, and whether an IPv4 address is the last two. -/
def readGroups (limit : Nat) : Nat -> Text -> Nat × Bool × Text
  | 0, text => (limit, false, text)
  | left + 1, text =>
      let index := limit - (left + 1)
      match if index < limit - 1 then readSeparator ':' index readIpv4Addr text else none with
      | some rest => (index + 2, true, rest)
      | none =>
          match readSeparator ':' index readGroup text with
          | some rest => readGroups limit left rest
          | none => (index, false, text)

def readIpv6Addr (text : Text) : Option Text :=
  match readGroups 8 8 text with
  | (8, _, rest) => some rest
  | (_, true, _) => none
  | (headSize, false, ':' :: ':' :: rest) =>
      some (readGroups (8 - (headSize + 1)) (8 - (headSize + 1)) rest).2.2
  | _ => none

/-- `IpAddr::from_str` -/
def isIpAddr (host : Text) : Bool :=
  match readIpv4Addr host with
  | some rest => rest.isEmpty
  | none => readIpv6Addr host == some []

example : isIpAddr "10.0.0.1".toList = true ∧ isIpAddr "10.0.0.01".toList = false ∧
    isIpAddr "::ffff:10.0.0.1".toList = true ∧ isIpAddr "node1.local".toList = false := by
  decide

def hostIsIpAddress (host : Text) : Bool :=
  host.head? == some '[' || isIpAddr host

/-!
# Resolving
-/

def defaultLegacyHttpPort : UInt16 := 8091

def defaultLegacyHttpsPort : UInt16 := 18091

def defaultMemdPort : UInt16 := 11210

def defaultSslMemdPort : UInt16 := 11207

def defaultCouchbase2Port : UInt16 := 18098

structure Address where
  host : Text
  port : UInt16
deriving DecidableEq

structure SrvRecord where
  proto : Text
  scheme : Text
  host : Text
deriving DecidableEq

structure ResolvedConnSpec where
  useSsl : Bool
  memdHosts : List Address
  httpHosts : List Address
  couchbase2Host : Option Address
  srvRecord : Option SrvRecord
  options : FiniteMap Text (List Text)

structure InvalidArgument where
  msg : String
  arg : String
deriving DecidableEq

def couchbase : Text :=
  "couchbase".toList

def couchbases : Text :=
  "couchbases".toList

def couchbase2 : Text :=
  "couchbase2".toList

def localhost : Text :=
  "127.0.0.1".toList

def ConnSpec.srvRecord (spec : ConnSpec) : Option SrvRecord :=
  match spec.scheme, spec.hosts with
  | some scheme, [{ host := host, port := none }] =>
      if scheme ≠ couchbase ∧ scheme ≠ couchbases then none
      else if hostIsIpAddress host then none
      else some { proto := "tcp".toList, scheme := scheme, host := host }
  | _, _ => none

def handleCouchbase2Scheme (spec : ConnSpec) : Except InvalidArgument ResolvedConnSpec :=
  let resolved (host : Address) : ResolvedConnSpec :=
    { useSsl := true, memdHosts := [], httpHosts := [], couchbase2Host := some host
      srvRecord := none, options := spec.options }
  match spec.hosts with
  | [] => .ok (resolved { host := localhost, port := defaultCouchbase2Port })
  | [address] =>
      .ok (resolved { host := address.host, port := address.port.getD defaultCouchbase2Port })
  | _ =>
      .error
        { msg := "couchbase2 scheme can only be used with a single host", arg := "scheme" }

/-- The ports for the key-value service and the management service. -/
def ports (useSsl : Bool) : UInt16 × UInt16 :=
  if useSsl then (defaultSslMemdPort, defaultLegacyHttpsPort)
  else (defaultMemdPort, defaultLegacyHttpPort)

def pushHosts (useSsl hasExplicitScheme : Bool) (defaultPort : UInt16) :
    List ConnSpecAddress -> List Address -> List Address ->
      Except InvalidArgument (List Address × List Address)
  | [], memdHosts, httpHosts => .ok (memdHosts, httpHosts)
  | address :: rest, memdHosts, httpHosts =>
      match address.port with
      | some port =>
          if port = defaultLegacyHttpPort then
            .error
              { msg := "couchbase://host:8091 not supported for couchbase:// scheme. " ++
                  "Use couchbase://host"
                arg := "port" }
          else if !hasExplicitScheme ∧ address.port ≠ some defaultPort then
            .error { msg := "ambiguous port without scheme", arg := "port" }
          else
            pushHosts useSsl hasExplicitScheme defaultPort rest
              (memdHosts ++ [{ host := address.host, port := port }]) httpHosts
      | none =>
          pushHosts useSsl hasExplicitScheme defaultPort rest
            (memdHosts ++ [{ host := address.host, port := (ports useSsl).1 }])
            (httpHosts ++ [{ host := address.host, port := (ports useSsl).2 }])

section Resolve

variable (lookupSrv : SrvRecord -> Option (List Address))

/-- A lookup that fails is as if there were no record. -/
def resolveHosts (spec : ConnSpec) (defaultPort : UInt16) (hasExplicitScheme useSsl : Bool) :
    Except InvalidArgument ResolvedConnSpec :=
  let resolved (memdHosts httpHosts : List Address) (srvRecord : Option SrvRecord) :
      ResolvedConnSpec :=
    { useSsl := useSsl, memdHosts := memdHosts, httpHosts := httpHosts, couchbase2Host := none
      srvRecord := srvRecord, options := spec.options }
  match spec.srvRecord.bind fun record => (lookupSrv record).map (Prod.mk record) with
  | some (record, srvRecords) => .ok (resolved srvRecords [] (some record))
  | none =>
      if spec.hosts.isEmpty then
        .ok (resolved [{ host := localhost, port := (ports useSsl).1 }]
          [{ host := localhost, port := (ports useSsl).2 }] none)
      else
        (pushHosts useSsl hasExplicitScheme defaultPort spec.hosts [] []).map fun hosts =>
          resolved hosts.1 hosts.2 none

def resolve (spec : ConnSpec) : Except InvalidArgument ResolvedConnSpec :=
  match spec.scheme with
  | some scheme =>
      if scheme = couchbase then resolveHosts lookupSrv spec defaultMemdPort true false
      else if scheme = couchbases then resolveHosts lookupSrv spec defaultSslMemdPort true true
      else if scheme = couchbase2 then handleCouchbase2Scheme spec
      else if scheme = [] then resolveHosts lookupSrv spec defaultMemdPort false false
      else .error { msg := "unrecognized scheme", arg := "scheme" }
  | none => resolveHosts lookupSrv spec defaultMemdPort false false

end Resolve

/-!
# What a connection string is resolved to
-/

/-- The hosts of a connection string; without any it is this machine. -/
def ConnSpec.named (spec : ConnSpec) : List ConnSpecAddress :=
  if spec.hosts = [] then [{ host := localhost, port := none }] else spec.hosts

def ConnSpecAddress.withPort (defaultPort : UInt16) (address : ConnSpecAddress) : Address :=
  { host := address.host, port := address.port.getD defaultPort }

def ConnSpecAddress.unported (address : ConnSpecAddress) : Bool :=
  address.port.isNone

/-- The port of the management service is not taken, and without a scheme only the default one. -/
def Ported (hasExplicitScheme : Bool) (defaultPort : UInt16) (address : ConnSpecAddress) : Prop :=
  forall port, address.port = some port ->
    port ≠ defaultLegacyHttpPort ∧ (hasExplicitScheme = false -> port = defaultPort)

/-- The schemes whose hosts are seeds. -/
inductive ConnSpec.Seeding (spec : ConnSpec) : (hasExplicitScheme useSsl : Bool) -> Prop where
  | absent : spec.scheme = none -> Seeding spec false false
  | empty : spec.scheme = some [] -> Seeding spec false false
  | couchbase : spec.scheme = some couchbase -> Seeding spec true false
  | couchbases : spec.scheme = some couchbases -> Seeding spec true true

/-- What the seeds are resolved to. -/
inductive Seeds (lookupSrv : SrvRecord -> Option (List Address)) (spec : ConnSpec)
    (hasExplicitScheme useSsl : Bool) : ResolvedConnSpec -> Prop where
  /-- The record of the only host was found. -/
  | records {record : SrvRecord} {addresses : List Address} :
      spec.srvRecord = some record -> lookupSrv record = some addresses ->
      Seeds lookupSrv spec hasExplicitScheme useSsl
        { useSsl := useSsl, memdHosts := addresses, httpHosts := [], couchbase2Host := none
          srvRecord := some record, options := spec.options }
  /-- Only the hosts without a port are used for the management service. -/
  | hosts :
      spec.srvRecord.bind lookupSrv = none ->
      (forall address, address ∈ spec.hosts ->
        Ported hasExplicitScheme defaultMemdPort address) ->
      Seeds lookupSrv spec hasExplicitScheme useSsl
        { useSsl := useSsl
          memdHosts := spec.named.map (ConnSpecAddress.withPort (ports useSsl).1)
          httpHosts := (spec.named.filter ConnSpecAddress.unported).map
            (ConnSpecAddress.withPort (ports useSsl).2)
          couchbase2Host := none, srvRecord := none, options := spec.options }

inductive Resolves (lookupSrv : SrvRecord -> Option (List Address)) (spec : ConnSpec) :
    ResolvedConnSpec -> Prop where
  | seeds {hasExplicitScheme useSsl : Bool} {resolved : ResolvedConnSpec} :
      spec.Seeding hasExplicitScheme useSsl ->
      Seeds lookupSrv spec hasExplicitScheme useSsl resolved -> Resolves lookupSrv spec resolved
  | couchbase2 {address : ConnSpecAddress} :
      spec.scheme = some couchbase2 -> spec.named = [address] ->
      Resolves lookupSrv spec
        { useSsl := true, memdHosts := [], httpHosts := []
          couchbase2Host := some (address.withPort defaultCouchbase2Port)
          srvRecord := none, options := spec.options }

theorem ported_of_none {hasExplicitScheme : Bool} {defaultPort : UInt16}
    {address : ConnSpecAddress} (h : address.port = none) :
    Ported hasExplicitScheme defaultPort address := by
  intro port hport
  rw [h] at hport
  cases hport

theorem pushHosts_eq_ok_iff {useSsl hasExplicitScheme : Bool} {defaultPort : UInt16}
    {hosts : List ConnSpecAddress} {memdHosts httpHosts : List Address}
    {result : List Address × List Address} :
    pushHosts useSsl hasExplicitScheme defaultPort hosts memdHosts httpHosts = .ok result <->
      (forall address, address ∈ hosts -> Ported hasExplicitScheme defaultPort address) ∧
        result =
          (memdHosts ++ hosts.map (ConnSpecAddress.withPort (ports useSsl).1),
            httpHosts ++ (hosts.filter ConnSpecAddress.unported).map
              (ConnSpecAddress.withPort (ports useSsl).2)) := by
  induction hosts generalizing memdHosts httpHosts with
  | nil =>
      rw [pushHosts, List.map_nil, List.filter_nil, List.map_nil, List.append_nil,
        List.append_nil]
      constructor
      · intro h
        cases h
        exact ⟨nofun, rfl⟩
      · intro h
        rw [h.2]
  | cons address rest ih =>
      rw [List.forall_mem_cons, List.map_cons, List.append_cons memdHosts]
      cases hport : address.port with
      | none =>
          have hunported : address.unported = true := by
            rw [ConnSpecAddress.unported, hport]
            rfl
          have hwith (port : UInt16) :
              address.withPort port = { host := address.host, port := port } := by
            rw [ConnSpecAddress.withPort, hport]
            rfl
          rw [pushHosts, hport, List.filter_cons_of_pos hunported, List.map_cons, hwith, hwith]
          dsimp only
          rw [ih, and_iff_right (ported_of_none hport),
            List.append_assoc httpHosts, List.singleton_append]
      | some port =>
          have hunported : ¬ address.unported = true := by
            rw [ConnSpecAddress.unported, hport]
            exact Bool.false_ne_true
          have hwith (defaultPort : UInt16) :
              address.withPort defaultPort = { host := address.host, port := port } := by
            rw [ConnSpecAddress.withPort, hport]
            rfl
          have hported : Ported hasExplicitScheme defaultPort address <->
              port ≠ defaultLegacyHttpPort ∧
                (hasExplicitScheme = false -> port = defaultPort) := by
            rw [Ported, hport]
            constructor
            · exact fun h => h port rfl
            · intro h port' hport'
              cases hport'
              exact h
          rw [pushHosts, hport, List.filter_cons_of_neg hunported, hwith, hported]
          dsimp only
          split
          · rename_i hlegacy
            constructor
            · intro h
              cases h
            · exact fun h => (h.1.1.1 hlegacy).elim
          · rename_i hlegacy
            split
            · rename_i hambiguous
              have hfalse : hasExplicitScheme = false := by simpa using hambiguous.1
              constructor
              · intro h
                cases h
              · exact fun h => (hambiguous.2 (congrArg some (h.1.1.2 hfalse))).elim
            · rename_i hambiguous
              have hdefault (hfalse : hasExplicitScheme = false) : port = defaultPort := by
                by_contra hne
                apply hambiguous
                exact ⟨by rw [hfalse]; rfl, fun heq => hne (Option.some.inj heq)⟩
              have hboth : port ≠ defaultLegacyHttpPort ∧
                  (hasExplicitScheme = false -> port = defaultPort) :=
                ⟨hlegacy, hdefault⟩
              rw [ih, and_iff_right hboth]

theorem ported_iff {hasExplicitScheme : Bool} {defaultPort : UInt16}
    (hport : hasExplicitScheme = false -> defaultPort = defaultMemdPort)
    (address : ConnSpecAddress) :
    Ported hasExplicitScheme defaultPort address <->
      Ported hasExplicitScheme defaultMemdPort address := by
  cases hasExplicitScheme with
  | false => rw [hport rfl]
  | true =>
      constructor
      · exact fun h port hsome => ⟨(h port hsome).1, nofun⟩
      · exact fun h port hsome => ⟨(h port hsome).1, nofun⟩

theorem resolveHosts_eq_ok_iff {lookupSrv : SrvRecord -> Option (List Address)} {spec : ConnSpec}
    {hasExplicitScheme useSsl : Bool} {defaultPort : UInt16} {resolved : ResolvedConnSpec}
    (hport : hasExplicitScheme = false -> defaultPort = defaultMemdPort) :
    resolveHosts lookupSrv spec defaultPort hasExplicitScheme useSsl = .ok resolved <->
      Seeds lookupSrv spec hasExplicitScheme useSsl resolved := by
  unfold resolveHosts
  dsimp only
  split
  · rename_i record addresses hfound
    rcases Option.bind_eq_some_iff.mp hfound with ⟨record', hrecord, hlookup⟩
    rcases Option.map_eq_some_iff.mp hlookup with ⟨addresses', haddresses, hpair⟩
    cases hpair
    constructor
    · intro h
      cases h
      exact .records hrecord haddresses
    · intro h
      cases h with
      | records hrecord' haddresses' =>
          cases hrecord.symm.trans hrecord'
          cases haddresses.symm.trans haddresses'
          rfl
      | hosts hnone _ =>
          rw [hrecord] at hnone
          cases haddresses.symm.trans hnone
  · rename_i hnotFound
    have hnone : spec.srvRecord.bind lookupSrv = none := by
      cases hrecord : spec.srvRecord with
      | none => rfl
      | some record =>
          rw [hrecord] at hnotFound
          exact Option.map_eq_none_iff.mp hnotFound
    have hhosts : Seeds lookupSrv spec hasExplicitScheme useSsl resolved <->
        (forall address, address ∈ spec.hosts -> Ported hasExplicitScheme defaultPort address) ∧
          resolved =
            { useSsl := useSsl
              memdHosts := spec.named.map (ConnSpecAddress.withPort (ports useSsl).1)
              httpHosts := (spec.named.filter ConnSpecAddress.unported).map
                (ConnSpecAddress.withPort (ports useSsl).2)
              couchbase2Host := none, srvRecord := none, options := spec.options } := by
      simp only [ported_iff hport]
      constructor
      · intro h
        cases h with
        | records hrecord haddresses =>
            rw [hrecord] at hnone
            cases haddresses.symm.trans hnone
        | hosts _ hported => exact ⟨hported, rfl⟩
      · intro h
        rw [h.2]
        exact .hosts hnone h.1
    rw [hhosts]
    split
    · rename_i hempty
      have hnil : spec.hosts = [] := List.isEmpty_iff.mp hempty
      rw [ConnSpec.named, if_pos hnil, hnil]
      constructor
      · intro h
        cases h
        exact ⟨nofun, rfl⟩
      · intro h
        rw [h.2]
        rfl
    · rename_i hempty
      have hne : ¬ spec.hosts = [] := fun hnil => hempty (List.isEmpty_iff.mpr hnil)
      rw [ConnSpec.named, if_neg hne]
      cases hpush : pushHosts useSsl hasExplicitScheme defaultPort spec.hosts [] [] with
      | ok hosts =>
          rcases pushHosts_eq_ok_iff.mp hpush with ⟨hported, rfl⟩
          rw [and_iff_right hported]
          constructor
          · intro h
            cases h
            rfl
          · intro h
            rw [h]
            rfl
      | error e =>
          constructor
          · intro h
            cases h
          · intro h
            have hok := (@pushHosts_eq_ok_iff useSsl hasExplicitScheme defaultPort spec.hosts [] []
              _).mpr ⟨h.1, rfl⟩
            cases hpush.symm.trans hok

/-- With a scheme any default port will do. -/
theorem resolveHosts_explicit {lookupSrv : SrvRecord -> Option (List Address)} {spec : ConnSpec}
    {useSsl : Bool} {defaultPort : UInt16} {resolved : ResolvedConnSpec} :
    resolveHosts lookupSrv spec defaultPort true useSsl = .ok resolved <->
      Seeds lookupSrv spec true useSsl resolved :=
  resolveHosts_eq_ok_iff (fun h => nomatch h)

theorem handleCouchbase2Scheme_eq_ok_iff {spec : ConnSpec} {resolved : ResolvedConnSpec} :
    handleCouchbase2Scheme spec = .ok resolved <->
      exists address, spec.named = [address] ∧
        resolved =
          { useSsl := true, memdHosts := [], httpHosts := []
            couchbase2Host := some (address.withPort defaultCouchbase2Port)
            srvRecord := none, options := spec.options } := by
  unfold handleCouchbase2Scheme ConnSpec.named
  dsimp only
  split
  · rename_i hnil
    rw [if_pos hnil]
    constructor
    · intro h
      cases h
      exact ⟨_, rfl, rfl⟩
    · intro h
      rcases h with ⟨address, haddress, rfl⟩
      cases haddress
      rfl
  · rename_i address hone
    rw [hone, if_neg (List.cons_ne_nil address [])]
    constructor
    · intro h
      cases h
      exact ⟨_, rfl, rfl⟩
    · intro h
      rcases h with ⟨address, haddress, rfl⟩
      cases haddress
      rfl
  · rename_i hnil hone
    rw [if_neg hnil]
    constructor
    · intro h
      cases h
    · intro h
      rcases h with ⟨address, haddress, _⟩
      exact (hone address haddress).elim

/-- A connection string is resolved to what its scheme, its hosts and their ports say, or to the
addresses of its record, and else not at all. -/
theorem resolve_eq_ok_iff {lookupSrv : SrvRecord -> Option (List Address)} {spec : ConnSpec}
    {resolved : ResolvedConnSpec} :
    resolve lookupSrv spec = .ok resolved <-> Resolves lookupSrv spec resolved := by
  constructor
  · intro h
    unfold resolve at h
    split at h
    · rename_i scheme hscheme
      split at h
      · rename_i heq
        rw [heq] at hscheme
        exact .seeds (.couchbase hscheme) (resolveHosts_explicit.mp h)
      · split at h
        · rename_i heq
          rw [heq] at hscheme
          exact .seeds (.couchbases hscheme) (resolveHosts_explicit.mp h)
        · split at h
          · rename_i heq
            rw [heq] at hscheme
            rcases handleCouchbase2Scheme_eq_ok_iff.mp h with ⟨address, hnamed, rfl⟩
            exact .couchbase2 hscheme hnamed
          · split at h
            · rename_i heq
              rw [heq] at hscheme
              exact .seeds (.empty hscheme) ((resolveHosts_eq_ok_iff fun _ => rfl).mp h)
            · cases h
    · rename_i hscheme
      exact .seeds (.absent hscheme) ((resolveHosts_eq_ok_iff fun _ => rfl).mp h)
  · intro h
    unfold resolve
    cases h with
    | seeds hseeding hseeds =>
        cases hseeding with
        | absent hscheme =>
            rw [hscheme]
            exact (resolveHosts_eq_ok_iff fun _ => rfl).mpr hseeds
        | empty hscheme =>
            rw [hscheme]
            exact (resolveHosts_eq_ok_iff fun _ => rfl).mpr hseeds
        | couchbase hscheme =>
            rw [hscheme]
            exact resolveHosts_explicit.mpr hseeds
        | couchbases hscheme =>
            rw [hscheme]
            exact resolveHosts_explicit.mpr hseeds
    | couchbase2 hscheme hnamed =>
        rw [hscheme]
        exact handleCouchbase2Scheme_eq_ok_iff.mpr ⟨_, hnamed, rfl⟩

end Connstr
end CouchbaseSdk
