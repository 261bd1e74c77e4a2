/-!
# Pages of the demonstration site

* `loginPage` : a form for signing in;
* `dashboardPage` : what is behind it, with an element of each kind that scenarios look for.
-/

namespace SiteTrial.Demo

/-- Lines, each with its end. -/
def unlines (ls : List String) : String := String.join (ls.map (· ++ "\n"))

def loginPage (variant : String) : String := unlines [
  "<!doctype html>",
  "<html>",
  "<head><title>" ++ variant ++ " - Login</title></head>",
  "<body>",
  "  <main>",
  "    <form method=\"post\" action=\"/" ++ variant ++ "/login\">",
  "      <input id=\"username\" name=\"username\" type=\"email\" placeholder=\"Email\">",
  "      <input id=\"password\" name=\"password\" type=\"password\" placeholder=\"Password\">",
  "      <button type=\"submit\">Sign in</button>",
  "    </form>",
  "  </main>",
  "</body>",
  "</html>"]

def dashboardPage (variant : String) : String := unlines [
  "<!doctype html>",
  "<html>",
  "<head><title>" ++ variant ++ " - Dashboard</title></head>",
  "<body>",
  "  <nav data-testid=\"navigation\"><a href=\"/" ++ variant ++ "/dashboard\">Home</a></nav>",
  "  <main data-testid=\"dashboard\">",
  "    <div data-testid=\"stats\" class=\"stats\">Users: <span id=\"users\">-</span></div>",
  "    <div data-testid=\"card\" class=\"card\">Welcome back</div>",
  "    <table data-testid=\"table\"><tr><td>row</td></tr></table>",
  "    <svg data-testid=\"chart\" width=\"120\" height=\"40\"></svg>",
  "  </main>",
  "  <script>",
  "    fetch(\"/" ++ variant ++ "/api/dashboard\")",
  "      .then((r) => r.json())",
  "      .then((d) => \x7b document.getElementById(\"users\").textContent = d.users; \x7d);",
  "  </script>",
  "</body>",
  "</html>"]

end SiteTrial.Demo
