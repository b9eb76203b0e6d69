import HotRod.Proofs.Text.Split
import HotRod.Server.Uri
set_option autoImplicit false

/-!
# URIs around a password

The password of a URI is what its user info holds after the first colon. A frame is the text around it,
which makes a URI of every password that is escaped well. Of that URI all parts but the password are
read off the frame, or it is refused for a fault that the frame has.
-/

namespace HotRod

/-- A password as it stands in a URI, with the text that it stands for. -/
structure EscapedPassword where
  chars : List Char
  clear : String
  decoded : Text.Percent.decode? chars = some clear
  /-- A question mark would end the user info. -/
  contained : '?' ∉ chars

/-- The text of a URI around its password. There may be blanks at both ends. -/
structure UriFrame where
  scheme : List Char
  user : List Char
  hosts : List Char
  query? : Option (List Char)
  scheme_uncut : Text.splitFirst? "://".toList scheme = none
  user_uncut : ':' ∉ user ∧ '?' ∉ user
  hosts_uncut : '@' ∉ hosts ∧ '?' ∉ hosts

namespace UriFrame

def before (frame : UriFrame) : List Char := frame.scheme ++ "://".toList ++ (frame.user ++ [':'])

def queryText (query? : Option (List Char)) : List Char := query?.elim [] ('?' :: ·)

def after (frame : UriFrame) : List Char := frame.hosts ++ queryText frame.query?

def chars (frame : UriFrame) (password : EscapedPassword) : List Char :=
  frame.before ++ password.chars ++ '@' :: frame.after

def text (frame : UriFrame) (password : EscapedPassword) : String := .ofList (frame.chars password)

def location (frame : UriFrame) (password : EscapedPassword) : List Char :=
  frame.user ++ ':' :: password.chars ++ '@' :: frame.hosts

def trimmed (frame : UriFrame) : UriFrame where
  scheme := Text.trimStart frame.scheme
  user := frame.user
  hosts := if frame.query?.isNone then Text.trimEnd frame.hosts else frame.hosts
  query? := frame.query?.map Text.trimEnd
  scheme_uncut := Text.splitFirst?_trimStart frame.scheme_uncut
  user_uncut := frame.user_uncut
  hosts_uncut := by
    split
    · exact ⟨mt Text.mem_of_mem_rdropWhile frame.hosts_uncut.1,
        mt Text.mem_of_mem_rdropWhile frame.hosts_uncut.2⟩
    · exact frame.hosts_uncut

def reading (frame : UriFrame) : Except UriFault HotRodUri := do
  let tls ← (HotRodUri.readScheme? frame.scheme).elim (.error .unknownScheme) .ok
  let user ← (Text.Percent.decode? frame.user).elim (.error .userEscape) .ok
  let servers ← HotRodUri.readServers (HotRodUri.dropSlashes frame.hosts)
  let properties ← HotRodUri.readQuery frame.query?
  let username := if user.isEmpty then none else some user
  return { tls, servers, username, password := none, properties }

variable (frame : UriFrame) (password : EscapedPassword)

theorem after_trimmed : frame.trimmed.after = Text.trimEnd frame.after := by
  cases query : frame.query? with
  | none => simp [after, trimmed, queryText, query]
  | some given =>
    have mark : Text.trimEnd (frame.hosts ++ '?' :: given) = frame.hosts ++ '?' :: Text.trimEnd given :=
      Text.trimEnd_append_cons (by decide) frame.hosts given
    simp [after, trimmed, queryText, query, mark]

/-- Neither the colon of the scheme nor the at sign is a blank, so that the password is not trimmed. -/
theorem trim_chars : Text.trim (frame.chars password) = frame.trimmed.chars password := by
  have parted (frame : UriFrame) : frame.chars password =
      frame.scheme ++ ':' :: ("//".toList ++ frame.user ++ ':' :: password.chars ++
        '@' :: frame.after) := by
    simp [chars, before]
  have sign (front : List Char) : Text.trimEnd (front ++ '@' :: frame.after) =
      front ++ '@' :: Text.trimEnd frame.after := Text.trimEnd_append_cons (by decide) front frame.after
  rw [parted, Text.trim, Text.trimStart_append_cons (by decide), ← List.cons_append,
    ← List.append_assoc, sign, parted, after_trimmed]
  simp [trimmed]

theorem readUserInfo_frame : HotRodUri.readUserInfo (some (frame.user ++ ':' :: password.chars)) =
    (Text.Percent.decode? frame.user).elim (.error .userEscape) fun user =>
      .ok (if user.isEmpty then none else some user, some password.clear) := by
  have cut := Text.splitFirst?_append frame.user_uncut.1 [] password.chars
  rw [List.append_assoc, List.singleton_append] at cut
  simp only [HotRodUri.readUserInfo, cut, password.decoded]
  cases Text.Percent.decode? frame.user <;> rfl

theorem splitUserInfo_location :
    HotRodUri.splitUserInfo (HotRodUri.dropSlashes (frame.location password)) =
      (some (frame.user ++ ':' :: password.chars), HotRodUri.dropSlashes frame.hosts) := by
  have kept : HotRodUri.dropSlashes (frame.location password) =
      frame.user ++ ':' :: password.chars ++ '@' :: HotRodUri.dropSlashes frame.hosts :=
    Text.rdropWhile_append_cons (by decide) _ _
  have absent : '@' ∉ HotRodUri.dropSlashes frame.hosts :=
    mt Text.mem_of_mem_rdropWhile frame.hosts_uncut.1
  rw [kept, HotRodUri.splitUserInfo, Text.splitLast?_append _ absent]

theorem splitFirst?_queryText {location : List Char} (uncut : '?' ∉ location)
    (query? : Option (List Char)) :
    Text.splitFirst? ['?'] (location ++ queryText query?) = query?.map (location, ·) := by
  cases query? with
  | none => simp [queryText, Text.splitFirst?_eq_none uncut]
  | some query =>
    have cut := Text.splitFirst?_append uncut [] query
    rwa [List.append_assoc, List.singleton_append] at cut

/-- A password is read as itself, and all else is read off the frame. -/
theorem read_text : HotRodUri.read (frame.text password).toList =
    frame.trimmed.reading.map fun uri => { uri with password := some password.clear } := by
  rw [text, String.toList_ofList, HotRodUri.read, trim_chars]
  generalize frame.trimmed = frame
  have scheme : Text.splitFirst? "://".toList (frame.chars password) =
      some (frame.scheme, frame.location password ++ queryText frame.query?) := by
    have cut := @Text.splitFirst?_append_of_eq_none ':' "//".toList frame.scheme (by decide)
      frame.scheme_uncut (frame.location password ++ queryText frame.query?)
    simpa [chars, before, after, location] using cut
  have query : Text.splitFirst? ['?'] (frame.location password ++ queryText frame.query?) =
      frame.query?.map (frame.location password, ·) := by
    apply splitFirst?_queryText
    simp [location, frame.user_uncut.2, password.contained, frame.hosts_uncut.2]
  have user := splitUserInfo_location frame password
  have credentials := readUserInfo_frame frame password
  unfold reading
  cases asked : frame.query? with
  | none =>
    rw [asked, queryText, Option.elim_none, List.append_nil] at query scheme
    simp only [scheme, query, user, credentials, Option.elim_some, Option.map_none, bind, Except.bind]
    cases HotRodUri.readScheme? frame.scheme <;> cases Text.Percent.decode? frame.user <;>
      cases HotRodUri.readServers (HotRodUri.dropSlashes frame.hosts) <;> rfl
  | some given =>
    rw [asked] at query scheme
    simp only [scheme, query, user, credentials, Option.elim_some, Option.map_some, bind, Except.bind]
    cases HotRodUri.readScheme? frame.scheme <;> cases Text.Percent.decode? frame.user <;>
      cases HotRodUri.readServers (HotRodUri.dropSlashes frame.hosts) <;>
      cases HotRodUri.readQuery (some given) <;> rfl

end UriFrame

end HotRod
