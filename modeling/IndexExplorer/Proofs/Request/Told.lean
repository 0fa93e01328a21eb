import IndexExplorer.Gateway
import IndexExplorer.Proofs.Store.Told

/-!
What making and signing requests ends with.

A request that cannot be made or signed is a problem without a kind. The only failures in front of
sending are those to find credentials.

* `onlyStray_build`, `onlyStray_make`, `onlyStray_sign`, `Service.onlyStray_ofUrl`: each step;
* `Gateway.onlyCredential_request`: the request of an attempt.
-/
namespace IndexExplorer

namespace Headers

theorem onlyStray_asciiText (s : String) : OnlyStray (asciiText s) := by
  unfold asciiText
  split
  · exact .ok _
  · exact .error nofun

theorem onlyStray_ofGiven (fields : Members) : OnlyStray (ofGiven fields) := by
  induction fields with
  | nil => exact .ok _
  | cons field rest ih =>
    obtain ⟨name, value⟩ := field
    refine .bind (.bind (onlyStray_asciiText name) fun name => ?_) fun field =>
      .bind ih fun rest => .ok _
    split
    · exact .bind (onlyStray_asciiText _) fun text => .ok _
    · exact .error nofun

theorem onlyStray_pairOf (index : Nat) (v : Json) : OnlyStray (pairOf index v) := by
  unfold pairOf
  split
  · exact .ok _
  · exact .error nofun
  · exact .error nofun
  · exact .ok _
  · exact .error nofun
  · split
    · exact .ok _
    · exact .error nofun
  · exact .error nofun

theorem onlyStray_pairsFrom (index : Nat) (items : List Json) :
    OnlyStray (pairsFrom index items) := by
  induction items generalizing index with
  | nil => exact .ok _
  | cons v rest ih =>
    exact .bind (onlyStray_pairOf index v) fun pair => .bind (ih (index + 1)) fun rest => .ok _

theorem onlyStray_fieldsOf (v : Json) : OnlyStray (fieldsOf v) := by
  unfold fieldsOf
  split
  · exact .ok _
  · split
    · exact .ok _
    · exact (onlyStray_pairsFrom 0 _).map _
    · exact (onlyStray_pairsFrom 0 _).map _
    · exact .error nofun

end Headers

namespace Request

theorem onlyStray_make (method url : String) (fields : Members) (body : ByteArray)
    (timeout : Option Json) : OnlyStray (make method url fields body timeout) := by
  unfold make
  split
  · exact .error nofun
  · exact (Headers.onlyStray_ofGiven fields).map _

theorem onlyStray_build (method url : Json) (content : Content) (fields timeout : Json) :
    OnlyStray (build method url content fields timeout) := by
  refine .bind (Headers.onlyStray_fieldsOf fields) fun fields => ?_
  dsimp only
  split
  · unfold makeGiven
    split
    · exact onlyStray_make _ _ _ _ _
    · exact .error nofun
    · exact .error nofun
  · exact .error nofun

end Request

theorem Service.onlyStray_ofUrl (url : String) : OnlyStray (ofUrl url) := by
  unfold ofUrl
  dsimp only
  split
  · exact (Outcome.onlyStray_split url).map _
  · exact .ok _

namespace Signature

theorem onlyStray_dated (h : Headers) (moment : String) : OnlyStray (dated h moment) := by
  unfold dated
  split
  · split
    · exact .ok _
    · exact .error nofun
    · exact .error nofun
  · exact .ok _

theorem onlyStray_port? (url : UrlParts) : OnlyStray url.port? := by
  unfold UrlParts.port?
  dsimp only
  split
  · exact .ok _
  · split
    · exact .error nofun
    · split
      · exact .error nofun
      · exact .ok _

theorem onlyStray_hostOf (url : UrlParts) : OnlyStray (hostOf url) := by
  refine .bind (onlyStray_port? url) fun port => ?_
  dsimp only
  split
  · split
    · exact .ok _
    · exact .error nofun
  · split <;> exact .ok _

theorem onlyStray_sign (d : Digest) (p : Purpose) (hashBody : Bool) (r : Request) :
    OnlyStray (sign d p hashBody r) := by
  refine .bind ((onlyStray_dated _ _).map _) fun working => ?_
  refine .bind (Outcome.onlyStray_split _) fun url => ?_
  refine .bind ?_ fun signed => .ok _
  unfold withHost
  split
  · exact .ok _
  · exact (onlyStray_hostOf url).map _

end Signature

/-- All failures to make the request of an attempt are failures to find credentials. -/
theorem Gateway.onlyCredential_request (env : Environment) (c : Connection) (call : Call)
    (node : String) : OnlyCredential (request env c call node) := by
  refine .bind (onlyCredential_source env.files _) fun credentials => ?_
  refine .bind (.of_stray (Request.onlyStray_build _ _ _ _ _)) fun built => ?_
  cases credentials with
  | none => exact nofun
  | some k =>
    refine .of_stray (.bind (Service.onlyStray_ofUrl _) fun service => ?_)
    exact Signature.onlyStray_sign _ _ _ _

end IndexExplorer
