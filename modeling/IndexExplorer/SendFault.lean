/-!
What can go wrong while a request is sent.
-/
namespace IndexExplorer

/-- The kinds of trouble. All but the last three mean that the peer gave no answer. -/
inductive SendFault.Kind where
  | connectError | readError | writeError | closeError | networkError
  | connectTimeout | readTimeout | writeTimeout | poolTimeout
  | remoteProtocolError | localProtocolError | proxyError | unsupportedProtocol
  | decodingError | tooManyRedirects | invalidUrl
deriving DecidableEq, Repr

namespace SendFault.Kind

/-- All kinds. -/
def all : List Kind :=
  [.connectError, .readError, .writeError, .closeError, .networkError, .connectTimeout,
   .readTimeout, .writeTimeout, .poolTimeout, .remoteProtocolError, .localProtocolError,
   .proxyError, .unsupportedProtocol, .decodingError, .tooManyRedirects, .invalidUrl]

/-- The name that messages use. -/
def name : Kind → String
  | .connectError => "ConnectError"
  | .readError => "ReadError"
  | .writeError => "WriteError"
  | .closeError => "CloseError"
  | .networkError => "NetworkError"
  | .connectTimeout => "ConnectTimeout"
  | .readTimeout => "ReadTimeout"
  | .writeTimeout => "WriteTimeout"
  | .poolTimeout => "PoolTimeout"
  | .remoteProtocolError => "RemoteProtocolError"
  | .localProtocolError => "LocalProtocolError"
  | .proxyError => "ProxyError"
  | .unsupportedProtocol => "UnsupportedProtocol"
  | .decodingError => "DecodingError"
  | .tooManyRedirects => "TooManyRedirects"
  | .invalidUrl => "InvalidURL"

/-- The kind of this name. -/
def ofName? (s : String) : Option Kind := all.find? (·.name = s)

/-- The peer gave no answer at all, so that another one may be asked. -/
def isTransport : Kind → Bool
  | .decodingError | .tooManyRedirects | .invalidUrl => false
  | _ => true

theorem ofName?_name (k : Kind) : ofName? k.name = some k := by
  cases k <;> decide

end SendFault.Kind

/-- Trouble while sending, with its description. -/
structure SendFault where
  kind : SendFault.Kind
  text : String
deriving DecidableEq, Repr

end IndexExplorer
