/-
# Listing of volumes

A listing starts at the page of its token and goes on until the links of a page say that it is
the last one. The token of the response is the number of that last page, from which a later
listing can go on. Pages are fetched one after the other and not as of one moment.
-/
import VolumePlugin.Call.Response
import VolumePlugin.Call.Setting
import VolumePlugin.Call.Validation

namespace VolumePlugin

/-- The text of a page number, which has to be short enough to be written. -/
def pageText (page : Value) : Except Failure String :=
  if page.isWritable then .ok page.display else .error (.longNumeral .written)

/-- The volumes from a page on, and the number of the last page. The fuel bounds the pages: a
page takes up a reply, and the request behind the last reply fails, so one more than the replies
that are left is never used up. -/
def fetchPages (setting : Setting) (client : Client) (perPage : Value) :
    Nat → Int → Action (List Volume × Int)
  | 0, page => return ([], page)
  | fuel + 1, page => do
    ensureActive "ListVolumes"
    let timeout ← setting.timeLeft "ListVolumes"
    let fetched ← client.listVolumes setting.region .null (.int page) perPage timeout
    let number ← pageText (.int page)
    Action.debug (String.join
      ["got ", Numeral.text fetched.volumes.length, " volumes from page ", number])
    match ← PageLinks.position fetched.links page with
    | .finished lastPage => return (fetched.volumes, lastPage)
    | .goOn nextPage =>
      let (volumes, lastPage) ← fetchPages setting client perPage fuel nextPage
      return (fetched.volumes ++ volumes, lastPage)

/-- A volume as an entry of a listing. -/
def Volume.entry (volume : Volume) : Except Failure CsiVolume :=
  return ⟨volume.id, ← volume.capacityBytes⟩

/-- The response for volumes up to a last page. -/
def respondListing (volumes : List Volume) (lastPage : Value) : Except Failure Response := do
  let entries ← volumes.mapM Volume.entry
  return .listing entries (← pageText lastPage)

/-- List volumes. -/
def ListVolumesRequest.perform (request : ListVolumesRequest) (setting : Setting) :
    Action Response := do
  let perPage ← request.validate
  let page ← pageOfToken request.startingToken
  let client ← setting.client
  let fuel := (← Action.repliesLeft) + 1
  let (volumes, lastPage) ← fetchPages setting client perPage fuel page
  respondListing volumes (.int lastPage)

end VolumePlugin
