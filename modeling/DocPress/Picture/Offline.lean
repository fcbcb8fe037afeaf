import DocPress.Picture.Fetch

/-!
A network without any connection. Only addresses with a protocol and a host are looked for at all.
-/

namespace DocPress

/-- The protocol of an address: letters, digits and some marks up to a colon, the first a letter. -/
def schemeOf? (url : List Char) : Option (List Char) :=
  let scheme := url.takeWhile fun c => c.isAlphanum || c = '+' || c = '.' || c = '-'
  match scheme, url.drop scheme.length with
  | first :: _, ':' :: _ => if first.isAlpha then some (scheme.map Char.toLower) else none
  | _, _ => none

def hostOf (url : List Char) : List Char :=
  match url.dropWhile (· ≠ ':') with
  | ':' :: '/' :: '/' :: rest =>
    let authority := rest.takeWhile fun c => c ≠ '/' && c ≠ '?' && c ≠ '#'
    let host := (authority.reverse.takeWhile (· ≠ '@')).reverse
    if host.head? = some '[' then host else host.takeWhile (· ≠ ':')
  | _ => []

def Network.offline : Network := fun url =>
  let cs := url.toList
  match schemeOf? cs with
  | some scheme =>
    if (hostOf cs).isEmpty then
      .failed "Request URL is missing an 'http://' or 'https://' protocol."
    else if scheme = "http".toList || scheme = "https".toList then
      .failed "[Errno -3] Temporary failure in name resolution"
    else
      .failed ("Request URL has an unsupported protocol '" ++ String.ofList scheme ++ "://'.")
  | none => .failed "Request URL is missing an 'http://' or 'https://' protocol."

end DocPress
