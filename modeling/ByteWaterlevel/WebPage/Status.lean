import ByteWaterlevel.Relais
import ByteWaterlevel.WebHandler
import ByteWaterlevel.WebPage

/-!
# The status tab of the web page

The part of the script of `index.html` that asks for the status once a second,
shows it and draws the chart, and that posts the relay switches.

`fetch` starts a call whose continuation runs when the answer is there, so each
function with an `await` is split into the part before it and the part after
it.  The part after it gets the response, or nothing if the call has failed.
`parse` is the browser's reading of a JSON text.  What an element shows is kept
as the member of the response that it was given.  `formatUptime` turns the
member `up` into its text; the other texts are conversions of the browser.
-/

namespace ByteWaterlevel
namespace WebPage

open Json

/-! ## The uptime -/

/-- The parts of an uptime in seconds, with their labels. -/
def uptimeUnits (s : ℕ) : List (String × ℕ) :=
  let days := s / 86400
  let s := s % 86400
  let hours := s / 3600
  let s := s % 3600
  let mins := s / 60
  let s := s % 60
  let secs := s
  [("d", days), ("h", hours), ("min", mins), ("s", secs)]

def formatUptime (s : ℕ) : String :=
  let units := uptimeUnits s
  match units.findIdx? fun unit => 0 < unit.2 with
  | none => "0s"
  | some firstNonZero =>
      " ".intercalate
        (((units.drop firstNonZero).filter fun unit => 0 < unit.2).map
          fun unit => toString unit.2 ++ unit.1)

/-! ## The chart -/

/-- The data of the chart: two data sets and the labels. -/
structure Chart where
  voltage : List Json
  current : List Json
  labels : List String

def initialChart : Chart := ⟨[], [], []⟩

/-- The three arrays after a response, all of them shifted by the length of the
first one. -/
def pushPoint (response : Json) (label : String) (chart : Chart) : Chart :=
  let chart :=
    if chart.voltage.length > 20 then
      { voltage := chart.voltage.tail
        current := chart.current.tail
        labels := chart.labels.tail }
    else chart
  { voltage := chart.voltage ++ [response.get "adc"]
    current := chart.current ++ [response.get "current"]
    labels := chart.labels ++ [label] }

/-! ## The tab -/

structure Tab where
  inFlight : Bool
  page : Page
  /-- What the elements of the tab show of a response. -/
  shown : String → Json
  /-- The chart, if its library has been loaded. -/
  chart : Option Chart

def initialTab (chartLoaded : Bool) : Tab where
  inFlight := false
  page := initialPage
  shown := fun _ => .null
  chart := if chartLoaded then some initialChart else none

def relayId (ind : ℕ) : String := "relay" ++ toString ind

def setRelayChecked (ind : ℕ) (isOn : Json) (page : Page) : Page :=
  setChecked (relayId ind) isOn page

/-- The element `j[i]`, null if there is none. -/
def element (i : ℕ) : Json → Json
  | .arr elements => elements.getD i .null
  | .obj members => get (.obj members) (toString i)
  | .str s => (s.toList[i]?).elim .null fun c => .str (String.singleton c)
  | _ => .null

/-- The elements that show a member of the status. -/
def statusTexts : List (String × String) :=
  [("temperature", "cpu"), ("frequency", "frequency"), ("up", "up"),
    ("rssi", "rssi"), ("sv", "volume"), ("sl", "level")]

/-- Shows the relays if the response has any. -/
def showRelays (response : Json) (tab : Tab) : Tab :=
  match response.find "channels" with
  | some channels =>
      { tab with
        page := setRelayChecked 2 (element 1 channels)
          (setRelayChecked 1 (element 0 channels) tab.page) }
  | none => tab

def showTexts (response : Json) (tab : Tab) : Tab :=
  { tab with
    shown := statusTexts.foldl
      (fun shown entry =>
        Function.update shown entry.1 (response.get entry.2)) tab.shown }

/-- The body of the `try` block after the response has been read.  Taking a
member of null throws, as does a chart that is not there; what was done before
stays done. -/
def showStatus (response : Json) (label : String) (tab : Tab) : Tab :=
  match response with
  | .null => tab
  | response =>
      match response.find "channels" with
      | some .null => tab
      | _ =>
          let tab := showTexts response (showRelays response tab)
          { tab with chart := tab.chart.map (pushPoint response label) }

/-! ## Calls of the API -/

/-- The body of a response as a document. -/
def responseJson (parse : String → Option Json) : Response → Option Json
  | .send _ _ body => parse body
  | _ => none

/-- `res.ok`. -/
def Response.ok : Response → Bool
  | .send code _ _ => decide (200 ≤ code ∧ code ≤ 299)
  | .sendFile _ _ => true
  | .requestAuthentication => false

/-- What is done with an answer: the status is shown, or the switch of a relay
is put back if the request was not carried out. -/
inductive Continuation where
  | status
  | relay (channel : Channel) (state : Bool)
deriving DecidableEq

def Channel.ind : Channel → ℕ
  | .one => 1
  | .two => 2

/-- The payload of a call. -/
def Continuation.payload : Continuation → Json
  | .status => .obj [("type", .str "status")]
  | .relay channel state =>
      .obj
        [("type", .str "relais"), ("channel", .int (Channel.ind channel)),
          ("state", .bool state)]

/-- The interval timer: nothing while a status is in flight. -/
def statusPing (tab : Tab) : Tab × List Continuation :=
  if tab.inFlight then (tab, [])
  else ({ tab with inFlight := true }, [.status])

/-- A click on the switch of a relay, which the browser turns over before it
reports the change. -/
def relayToggle (channel : Channel) (tab : Tab) : Tab × List Continuation :=
  let id := relayId (Channel.ind channel)
  let state := !tab.page.checked id
  ({ tab with page := setChecked id (.bool state) tab.page },
    [.relay channel state])

/-- The rest of a call when it comes back with a response, or with nothing if
it has failed. -/
def resume (parse : String → Option Json) (label : String) (tab : Tab) :
    Continuation → Option Response → Tab
  | .status, response =>
      let tab :=
        match response.bind (responseJson parse) with
        | some json => showStatus json label tab
        | none => tab
      { tab with inFlight := false }
  | .relay channel state, response =>
      if response.any Response.ok then tab
      else
        { tab with
          page := setChecked (relayId (Channel.ind channel)) (.bool (!state))
            tab.page }

end WebPage
end ByteWaterlevel
