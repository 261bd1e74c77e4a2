import SiteTrial.Sample.Collector
/-!
# What is asked of a collector

Workers and the analysis ask one collector for one thing after another.

* `Collector.Request`, `Collector.Answer` : what can be asked of a collector, and what is answered;
* `Collector.respond` : one request, which may be refused;
* `Collector.after`, `Collector.reply` : requests one after another, and the reply to one that is made after others.
-/

namespace SiteTrial.Collector

/-- One thing asked of a collector. -/
inductive Request where
  | add (s : Sample)
  | close
  | all
  | samplesFor (application scenario : String)
  | scenarios
  | size

/-- What is answered to a request that is granted. -/
inductive Answer where
  | done
  | samples (l : List Sample)
  | names (l : List String)
  | number (n : Nat)

/-- What a request comes to, and the collector afterwards. -/
def respond (c : Collector) : Request → Except Failure Answer × Collector
  | .add s =>
    match c.add s with
    | .ok c' => (.ok .done, c')
    | .error f => (.error f, c)
  | .close => (.ok .done, c.close)
  | .all => (c.all.map .samples, c)
  | .samplesFor application scenario => ((c.samplesFor application scenario).map .samples, c)
  | .scenarios => (c.scenarios.map .names, c)
  | .size => (.ok (.number c.size), c)

/-- The collector after one more request. -/
def next (c : Collector) (r : Request) : Collector := (c.respond r).2

/-- A new collector after requests one after another. -/
def after (history : List Request) : Collector := history.foldl next {}

/-- What a request comes to that is made after others. -/
def reply (history : List Request) (r : Request) : Except Failure Answer := ((after history).respond r).1

end SiteTrial.Collector
