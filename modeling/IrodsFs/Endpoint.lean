import IrodsFs.GoUrl

/-!
# The pool service endpoint

`ParsePoolServiceEndpoint` reads the endpoint with `url.Parse` and decides on its scheme alone.
Inside the spec's grammar (`tcp://host:port`, `unix:///path`) it is right (`parse_format`).
Outside it accepts too much and too little: a `tcp` endpoint with no address and a `unix`
endpoint with a host pass, and a bare `host:port` never does, since `url.Parse` reads the host
as a scheme or refuses a first path segment with a colon.
-/
namespace IrodsFs

open GoUrl GoPath GoStrings

inductive EndpointError
  /-- "could not parse endpoint: %v" -/
  | couldNotParse (err : GoUrl.Error)
  /-- "unknown host: %s" -/
  | unknownHost (host : List Char)
  /-- "unsupported protocol: %s" -/
  | unsupportedProtocol (scheme : List Char)
deriving DecidableEq, Repr

def ParsePoolServiceEndpoint (endpoint : List Char) :
    Except EndpointError (List Char × List Char) :=
  match Parse endpoint with
  | .error err => .error (.couldNotParse err)
  | .ok u =>
      let scheme := u.Scheme.map Char.toLower
      if scheme = "tcp".toList then .ok ("tcp".toList, u.Host)
      else if scheme = "unix".toList then .ok ("unix".toList, join [['/'], u.Path])
      else if scheme = [] then
        if 0 < u.Host.length then .ok ("tcp".toList, u.Host) else .error (.unknownHost u.Host)
      else .error (.unsupportedProtocol scheme)

/-- The pool endpoint check of `Config.Validate`: an endpoint, if one is set, must parse. -/
def validatePoolEndpoint (poolEndpoint : List Char) : Option EndpointError :=
  if 0 < poolEndpoint.length then
    match ParsePoolServiceEndpoint poolEndpoint with
    | .error err => some err
    | .ok _ => none
  else none

/-- **The parser strays from the grammar.** A `tcp` endpoint with no address and a `unix`
endpoint with a host are accepted, the host silently dropped; bare `host:port` endpoints are
refused, whether the host is a name or an IP address. -/
theorem pool_endpoint_parser_strays_from_grammar :
    ParsePoolServiceEndpoint "tcp://".toList = .ok ("tcp".toList, []) ∧
      ParsePoolServiceEndpoint "unix://pool-host/run/pool.sock".toList =
        .ok ("unix".toList, "/run/pool.sock".toList) ∧
      ParsePoolServiceEndpoint "localhost:1247".toList =
        .error (.unsupportedProtocol "localhost".toList) ∧
      ParsePoolServiceEndpoint "127.0.0.1:1247".toList =
        .error (.couldNotParse ⟨"parse", "127.0.0.1:1247".toList, .firstPathSegmentColon⟩) :=
  ⟨rfl, rfl, rfl, rfl⟩

/-! ### Inside the grammar -/

/-- The bytes of a host name: the unreserved bytes of RFC 3986. -/
def hostNameChars : List Char :=
  "ABCDEFGHIJKLMNOPQRSTUVWXYZabcdefghijklmnopqrstuvwxyz0123456789-._~".toList

/-- The bytes of an IP literal: hexadecimal digits, colons and dots. -/
def ipLiteralChars : List Char :=
  "0123456789abcdefABCDEF:.".toList

def digitChars : List Char :=
  "0123456789".toList

def tcpAddressChars : List Char :=
  hostNameChars ++ ipLiteralChars ++ ['[', ']']

/-- An IPv6 address as `netip.ParseAddr` reads one, neither IPv4 nor IPv4-mapped: what RFC 3986
allows in brackets. -/
def isIPv6Literal (ip : List Char) : Bool :=
  match GoNetip.ParseAddr ip with
  | .ok addr => !addr.Is4 && !addr.Is4In6
  | .error _ => false

/-- An address the grammar writes after `tcp://`: a host name, or an IPv6 literal in brackets,
then a colon and a port number. -/
def TcpAddress (address : List Char) : Prop :=
  ∃ host port, address = host ++ ':' :: port ∧ port ≠ [] ∧ (∀ c ∈ port, c ∈ digitChars) ∧
    ((host ≠ [] ∧ ∀ c ∈ host, c ∈ hostNameChars) ∨
      ∃ ip, host = '[' :: ip ++ [']'] ∧ (∀ c ∈ ip, c ∈ ipLiteralChars) ∧ isIPv6Literal ip = true)

/-- A socket path the grammar writes after `unix://`: absolute, clean, and free of `?`, `#`, `%`
and control bytes. -/
def SocketPath (path : List Char) : Prop :=
  path.head? = some '/' ∧ clean path = path ∧
    ∀ c ∈ path, c ≠ '?' ∧ c ≠ '#' ∧ c ≠ '%' ∧ 32 ≤ c.toNat ∧ c.toNat ≠ 127

/-- A pool endpoint as the spec's grammar has it. -/
inductive PoolEndpoint
  | tcp (address : List Char)
  | unix (path : List Char)
deriving DecidableEq, Repr

def PoolEndpoint.Legal : PoolEndpoint → Prop
  | .tcp address => TcpAddress address
  | .unix path => SocketPath path

def PoolEndpoint.format : PoolEndpoint → List Char
  | .tcp address => "tcp://".toList ++ address
  | .unix path => "unix://".toList ++ path

def PoolEndpoint.dial : PoolEndpoint → List Char × List Char
  | .tcp address => ("tcp".toList, address)
  | .unix path => ("unix".toList, path)

theorem tcpAddressChars_plain :
    ∀ c ∈ tcpAddressChars, 32 ≤ c.toNat ∧ c.toNat ≠ 127 ∧ c ≠ '%' ∧
      shouldEscape c .encodeHost = false := by
  decide

theorem delimiters_not_mem_tcpAddressChars :
    '#' ∉ tcpAddressChars ∧ '?' ∉ tcpAddressChars ∧ '/' ∉ tcpAddressChars ∧
      '@' ∉ tcpAddressChars := by
  decide

theorem TcpAddress.chars {address : List Char} (h : TcpAddress address) :
    ∀ c ∈ address, c ∈ tcpAddressChars := by
  obtain ⟨host, port, rfl, -, hport, hhost⟩ := h
  have hdigit : ∀ c ∈ digitChars, c ∈ ipLiteralChars := by decide
  intro c hc
  simp only [tcpAddressChars, List.mem_append, List.mem_cons] at hc ⊢
  rcases hc with hc | rfl | hc
  · rcases hhost with ⟨-, hname⟩ | ⟨ip, rfl, hip, -⟩
    · exact .inl (.inl (hname c hc))
    · simp only [List.cons_append, List.mem_cons, List.mem_append] at hc
      rcases hc with rfl | hc | hc
      · simp
      · exact .inl (.inr (hip c hc))
      · simp_all
  · exact .inl (.inr (by decide))
  · exact .inl (.inr (hdigit c (hport c hc)))

theorem validOptionalPort_digits {port : List Char} (h : ∀ c ∈ port, c ∈ digitChars) :
    validOptionalPort (':' :: port) = true := by
  have hdigit : ∀ d ∈ digitChars, d.isDigit = true := by decide
  simp only [validOptionalPort, beq_self_eq_true, Bool.true_and, List.all_eq_true]
  exact fun c hc => hdigit c (h c hc)

theorem unescape_of_tcpAddressChars {s : List Char} (hs : ∀ c ∈ s, c ∈ tcpAddressChars) :
    unescape .encodeHost s = .ok s :=
  unescape_of_plain .encodeHost fun c hc =>
    ⟨(tcpAddressChars_plain c (hs c hc)).2.2.1, fun _ => (tcpAddressChars_plain c (hs c hc)).2.2.2⟩

theorem parseHost_tcpAddress {address : List Char} (h : TcpAddress address) :
    parseHost address = .ok address := by
  have hchars := h.chars
  obtain ⟨host, port, rfl, -, hport, hhost⟩ := h
  have hvalid := validOptionalPort_digits hport
  have hsep : ':' ∉ digitChars ∧ ']' ∉ digitChars := by decide
  have hcolon : ':' ∉ port := fun h => hsep.1 (hport _ h)
  rcases hhost with ⟨hne, hname⟩ | ⟨ip, rfl, hip, hv6⟩
  · -- a host name: the port follows its last colon
    obtain ⟨c, host', rfl⟩ := List.exists_cons_of_ne_nil hne
    have hc : c ≠ '[' := fun h => by
      have hbracket : '[' ∉ hostNameChars := by decide
      exact hbracket (h ▸ hname c (List.mem_cons_self c host'))
    unfold parseHost
    simp only [List.cons_append, List.head?_cons, Option.some.injEq, hc, if_false]
    rw [← List.cons_append, lastIndexOf?_append_cons _ hcolon]
    simp only [List.drop_left, hvalid, Bool.not_true, Bool.false_eq_true, if_false]
    exact unescape_of_tcpAddressChars hchars
  · -- an IPv6 literal: the port follows the closing bracket, and there is no zone
    have hbracket : ']' ∉ ':' :: port := by
      simp only [List.mem_cons, not_or]
      exact ⟨by decide, fun h => hsep.2 (hport _ h)⟩
    have hipChars : ∀ c ∈ ip, c ∈ tcpAddressChars := fun c hc => hchars c (by simp [hc])
    have hportChars : ∀ c ∈ ':' :: port, c ∈ tcpAddressChars := fun c hc =>
      hchars c (by simp only [List.mem_append, List.mem_cons] at hc ⊢; tauto)
    have hpct : '%' ∉ ip := fun h => (show '%' ∉ ipLiteralChars by decide) (hip '%' h)
    have hsplit : '[' :: ip ++ [']'] ++ ':' :: port = ('[' :: ip) ++ ']' :: ':' :: port := by simp
    have hdrop : (ip ++ ']' :: ':' :: port).drop (ip.length + 1) = ':' :: port := by
      rw [List.append_cons]
      exact List.drop_left' (by simp)
    unfold isIPv6Literal at hv6
    unfold parseHost
    rw [hsplit, lastIndexOf?_append_cons _ hbracket]
    simp only [List.cons_append, List.head?_cons, if_true, List.length_cons, List.drop_succ_cons,
      hdrop, List.take_succ_cons, List.take_left, List.drop_zero, hvalid, Bool.not_true,
      Bool.false_eq_true, if_false, indexOfSub?_eq_none hpct,
      unescape_of_tcpAddressChars hportChars, unescape_of_tcpAddressChars hipChars]
    cases haddr : GoNetip.ParseAddr ip with
    | error err => rw [haddr] at hv6; cases hv6
    | ok addr =>
        rw [haddr, Bool.and_eq_true, Bool.not_eq_true', Bool.not_eq_true'] at hv6
        simp [bind, Except.bind, pure, Except.pure, haddr, hv6.1, hv6.2]

theorem getScheme_tcp (rest : List Char) :
    getScheme ("tcp".toList ++ ':' :: rest) = .ok ("tcp".toList, rest) :=
  rfl

theorem getScheme_unix (rest : List Char) :
    getScheme ("unix".toList ++ ':' :: rest) = .ok ("unix".toList, rest) :=
  rfl

theorem scheme_slashes_append (scheme rest : List Char) :
    scheme ++ ':' :: '/' :: '/' :: rest = (scheme ++ [':', '/', '/']) ++ rest := by
  simp

/-- `url.Parse` reads `tcp://` and a TCP address as a `tcp` URL whose host is the address. -/
theorem Parse_tcpAddress {address : List Char} (h : TcpAddress address) :
    Parse ("tcp://".toList ++ address) = .ok ⟨"tcp".toList, none, address, []⟩ := by
  have hchars := h.chars
  obtain ⟨hhash, hquery, hslash, hat⟩ := delimiters_not_mem_tcpAddressChars
  have hnot : ∀ c, c ∉ tcpAddressChars → c ∉ address ++ [] := fun c hc => by
    simpa using fun h => hc (hchars c h)
  have hauth : parseAuthority address = .ok (none, address) := by
    simp only [parseAuthority, lastIndexOf?_eq_none fun h => hat (hchars '@' h),
      parseHost_tcpAddress h]
    rfl
  have hctl : stringContainsCTLByte (address ++ []) = false := by
    rw [List.append_nil, stringContainsCTLByte_eq_false]
    exact fun c hc => ⟨(tcpAddressChars_plain c (hchars c hc)).1,
      (tcpAddressChars_plain c (hchars c hc)).2.1⟩
  have hparse := @Parse_scheme_authority "tcp".toList address [] address (getScheme_tcp _)
    (by decide) rfl (by rw [scheme_slashes_append, stringContainsCTLByte_append, hctl]; rfl)
    (by rw [scheme_slashes_append]; exact List.not_mem_append (by decide) (hnot '#' hhash))
    (hnot '?' hquery) (fun h => hslash (hchars '/' h)) (.inl rfl) (List.not_mem_nil _) hauth
  simpa only [List.append_nil] using hparse

/-- `url.Parse` reads `unix://` and an absolute path as a `unix` URL with no host. -/
theorem Parse_socketPath {path : List Char} (h : SocketPath path) :
    Parse ("unix://".toList ++ path) = .ok ⟨"unix".toList, none, [], path⟩ := by
  obtain ⟨hhead, -, hchars⟩ := h
  have hnot : ∀ c, (∀ d ∈ path, d ≠ c) → c ∉ [] ++ path := fun c hc h => hc c h rfl
  have hctl : stringContainsCTLByte ([] ++ path) = false :=
    stringContainsCTLByte_eq_false.2 fun c hc => (hchars c hc).2.2.2
  exact @Parse_scheme_authority "unix".toList [] path [] (getScheme_unix _) (by decide) rfl
    (by rw [scheme_slashes_append, stringContainsCTLByte_append, hctl]; rfl)
    (by rw [scheme_slashes_append]; exact List.not_mem_append (by decide) (hnot '#' fun d hd => (hchars d hd).2.1))
    (hnot '?' fun d hd => (hchars d hd).1) (List.not_mem_nil _) (.inr hhead)
    (fun h => (hchars '%' h).2.2.1 rfl) rfl

theorem join_root_socketPath {path : List Char} (h : SocketPath path) : join [['/'], path] = path := by
  obtain ⟨hhead, hclean, -⟩ := h
  cases path with
  | nil => simp at hhead
  | cons c path =>
      obtain rfl : c = '/' := by simpa using hhead
      rw [join_root (List.cons_ne_nil _ _), clean_slash_slash, clean_slash_slash, hclean]

/-- **Inside the grammar the parser is right.** Every endpoint the grammar writes as `tcp://` and
a TCP address, or as `unix://` and a socket path, reads back as the network and the address it
was written from. -/
theorem parse_format (ep : PoolEndpoint) (h : ep.Legal) :
    ParsePoolServiceEndpoint ep.format = .ok ep.dial := by
  cases ep with
  | tcp address =>
      unfold ParsePoolServiceEndpoint PoolEndpoint.format
      rw [Parse_tcpAddress h]
      rfl
  | unix path =>
      unfold ParsePoolServiceEndpoint PoolEndpoint.format
      rw [Parse_socketPath h]
      dsimp only
      rw [join_root_socketPath h]
      rfl

/-- A host name, and the IPv6 loopback address in brackets. -/
theorem parse_format_pool_host :
    PoolEndpoint.Legal (.tcp "pool-host:1247".toList) ∧
      ParsePoolServiceEndpoint "tcp://pool-host:1247".toList =
        .ok ("tcp".toList, "pool-host:1247".toList) ∧
      PoolEndpoint.Legal (.tcp "[::1]:1247".toList) ∧
      ParsePoolServiceEndpoint "tcp://[::1]:1247".toList = .ok ("tcp".toList, "[::1]:1247".toList) :=
  have hname : PoolEndpoint.Legal (.tcp "pool-host:1247".toList) :=
    ⟨"pool-host".toList, "1247".toList, rfl, by decide, by decide, .inl ⟨by decide, by decide⟩⟩
  have hloopback : PoolEndpoint.Legal (.tcp "[::1]:1247".toList) :=
    ⟨"[::1]".toList, "1247".toList, rfl, by decide, by decide, .inr ⟨"::1".toList, rfl, by decide, rfl⟩⟩
  ⟨hname, parse_format _ hname, hloopback, parse_format _ hloopback⟩

end IrodsFs
