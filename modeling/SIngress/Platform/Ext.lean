/-
  SIngress.Platform.Ext — WHAT THE CODE CALLS OUTSIDE THE REPOSITORY.

  `Ext` gathers the functions of the standard library and of third-party
  packages whose answer depends on their arguments alone.  The development is
  parametric in it: every result holds for whatever these functions compute,
  and a result that relies on a property of one of them says so.  A parser
  that either accepts its text or fails is `text → Option error`; the accepted
  value is then represented by the text.
-/
import SIngress.Base.Fail
import SIngress.Config.Yaml
import SIngress.K8s.Objects
import SIngress.Platform.Outcomes

namespace SIngress.Platform

open SIngress.Base SIngress.Lib SIngress.K8s SIngress.Config

/-- The library functions the code calls. -/
structure Ext where
  /-- `netip.ParsePrefix`. -/
  parsePrefix : GoString → Except GoError Prefix
  /-- `netip.ParseAddr`. -/
  parseAddr : GoString → Except GoError Addr
  /-- `netip.ParseAddrPort`. -/
  parseAddrPort : GoString → Except GoError AddrPort
  /-- `netip.AddrPort.String`. -/
  addrPortString : AddrPort → GoString
  /-- `url.Parse`, then `String()` of the result. -/
  urlParse : GoString → Except GoError GoString
  /-- `url.URL.String`. -/
  urlString : URL → GoString
  /-- `url.QueryEscape`. -/
  queryEscape : GoString → GoString
  /-- `url.Query().Get`, from the raw query. -/
  queryGet : GoString → GoString → GoString
  /-- `regexp.Compile`. -/
  regexpCompile : GoString → Option GoError
  /-- `Regexp.MatchString`, by the compiled pattern's text. -/
  regexpMatch : GoString → GoString → Bool
  /-- `htpasswd.NewFromReader`. -/
  htpasswdNew : GoString → Option GoError
  /-- `htpasswd.File.Match`: file text, user, password. -/
  htpasswdMatch : GoString → GoString → GoString → Bool
  /-- `tls.X509KeyPair`. -/
  x509KeyPair : GoString → GoString → Option GoError
  /-- `template.New("error").Parse`. -/
  templateParse : GoString → Option GoError
  /-- `time.ParseDuration`, in nanoseconds. -/
  parseDuration : GoString → Except GoError Int
  /-- `sha256.Sum256`. -/
  sha256 : GoString → GoString
  /-- `jose.NewEncrypter`. -/
  newEncrypter : GoString → Option GoError
  /-- `%q`. -/
  quote : GoString → GoString
  /-- `%v` of a pointer. -/
  printPointer : GoString
  /-- `%s` of a `*v1.Secret`. -/
  printSecret : Secret → GoString
  /-- `http.Request.BasicAuth`. -/
  basicAuth : Header → Option (GoString × GoString)
  /-- `http.Request.Cookie`: the value, or `ErrNoCookie`. -/
  cookie : Header → GoString → Option GoString
  /-- `http.Cookie.String`. -/
  cookieString : Cookie → GoString
  /-- `websocket.IsWebSocketUpgrade`. -/
  isWebSocketUpgrade : Header → Bool
  /-- `idna.Punycode.ToASCII`. -/
  idnaToASCII : GoString → Except GoError GoString
  /-- The `Location` value `http.Redirect` sets for a target. -/
  redirectLocation : Request → GoString → GoString
  /-- The body `http.Redirect` writes for a target and a status. -/
  redirectBody : GoString → Int → GoString
  /-- `oauth2.Config.AuthCodeURL` for a state and a nonce. -/
  authCodeURL : Proxy.Oauth2Config → GoString → GoString → GoString
  /-- `jose.ParseEncrypted`, then `Decrypt` with a key. -/
  parseEncrypted : GoString → Option GoError
  decrypt : GoString → GoString → Except GoError GoString
  /-- `json.Unmarshal` of a session. -/
  unmarshalAuthInfo : GoString → Except GoError AuthInfo
  /-- `http.StatusText`. -/
  statusText : Int → GoString
  /-- `http.NewRequestWithContext`: whether method and URL make a request. -/
  newRequest : GoString → GoString → Option GoError
  /-- YAML decoding of the controller configuration. -/
  decodeController : GoString → Except GoError ControllerYaml
  /-- YAML decoding of the module section `security`. -/
  decodeSecurity : GoString → Except GoError Bool
  /-- YAML decoding of the module section `auth`. -/
  decodeAuth : GoString → Except GoError (GoMap GoString Proxy.ForwardAuthConfig)
  /-- YAML decoding of the module section `oidc`. -/
  decodeOidc : GoString → Except GoError (GoMap GoString OidcClientYaml)

/-! ## A small platform, to evaluate the model on fixed inputs.

It parses one prefix, one address and one peer, prints a URL without its query,
and accepts every certificate, template, pattern and password file. -/

/-- Library functions that answer as the real ones do on the inputs the development
evaluates. -/
def Ext.small : Ext where
  parsePrefix s :=
    if s = lit "10.0.0.0/8" then .ok ⟨.v4 0x0A000000, 8⟩ else .error (lit "no slash")
  parseAddr s := if s = lit "10.0.0.1" then .ok (.v4 0x0A000001) else .error (lit "not an IP")
  parseAddrPort s :=
    if s = lit "10.0.0.9:80" then .ok ⟨.v4 0x0A000009, 80⟩ else .error (lit "not an ip:port")
  addrPortString _ := lit "10.0.0.9:80"
  urlParse s := .ok s
  urlString u := u.scheme ++ lit "://" ++ u.host ++ u.path
  queryEscape s := s
  queryGet _ _ := []
  regexpCompile _ := none
  -- a pattern that is anchored at the start and has no operators
  regexpMatch pattern s := startsWith (0x5E :: s) pattern
  htpasswdNew _ := none
  htpasswdMatch _ _ _ := false
  x509KeyPair _ _ := none
  templateParse _ := none
  parseDuration _ := .ok 0
  sha256 s := s
  newEncrypter _ := none
  quote s := lit "\"" ++ s ++ lit "\""
  printPointer := lit "0xc000012345"
  printSecret _ := lit "&Secret"
  basicAuth _ := none
  cookie _ _ := none
  cookieString c := c.name ++ lit "=" ++ c.value
  isWebSocketUpgrade _ := false
  idnaToASCII s := .ok s
  redirectLocation _ target := target
  redirectBody _ _ := []
  authCodeURL conf _ _ := conf.endpoint
  parseEncrypted _ := none
  decrypt _ _ := .error (lit "cannot decrypt")
  unmarshalAuthInfo _ := .error (lit "unexpected end of JSON input")
  statusText _ := []
  newRequest _ url :=
    -- a URL whose port is not a number does not parse
    if url = lit "http://a:b/" then some (lit "invalid port \":b\" after host") else none
  decodeController data :=
    if data = lit "proxy:\n  maxBodySize: 8192\n" then
      .ok ⟨none, false, [], [], ⟨lit "8192", [], []⟩, ∅⟩
    else .error (lit "EOF")
  decodeSecurity _ := .ok false
  decodeAuth _ := .ok ∅
  decodeOidc _ := .ok ∅

end SIngress.Platform
