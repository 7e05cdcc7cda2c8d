/-!
# A sample diff

The diff that the demonstration analyzes. It has something for every part of a report: tests added
and deleted, deleted methods, references of every class, lines that are commented out, and a file
that is not analyzed.

## Main definitions

* `Sample.diff`: the diff; `Sample.name`: the name it goes by in the report.
-/

namespace PullReport

namespace Sample

/-- The name under which the sample is reported. -/
def name : String := "sample_pr.patch"

/-- The lines of the sample. -/
def lines : List String :=
  ["diff --git a/src/Auth/LoginService.cs b/src/Auth/LoginService.cs",
    "index 3f2a1c4..9b7d0e2 100644",
    "--- a/src/Auth/LoginService.cs",
    "+++ b/src/Auth/LoginService.cs",
    "@@ -12,22 +12,14 @@ namespace Auth",
    "     public class LoginService",
    "     \x7b",
    "         private readonly ILogger<LoginService> _logger;",
    " ",
    "-        public bool LegacyLogin(string user, string password)",
    "-        \x7b",
    "-            return _store.Check(user, password);",
    "-        \x7d",
    "-",
    "-        public async Task<string> GetSessionsAsync(string user)",
    "-        \x7b",
    "-            return await _store.Sessions(user);",
    "-        \x7d",
    "+        public async Task<Token> LoginAsync(OAuthRequest request)",
    "+        \x7b",
    "+            return await _oauth.Exchange(request);",
    "+        \x7d",
    " ",
    "-        private void ClearCache()",
    "-        \x7b",
    "-        \x7d",
    "+        // public void ClearCache() \x7b \x7d",
    "     \x7d",
    " \x7d",
    "diff --git a/tests/Auth.Tests/LoginServiceTests.cs b/tests/Auth.Tests/LoginServiceTests.cs",
    "index 71c0aa2..0d5e118 100644",
    "--- a/tests/Auth.Tests/LoginServiceTests.cs",
    "+++ b/tests/Auth.Tests/LoginServiceTests.cs",
    "@@ -8,14 +8,22 @@ namespace Auth.Tests",
    "     public class LoginServiceTests",
    "     \x7b",
    "-        [Fact]",
    "-        public void LegacyLogin_RejectsEmptyPassword()",
    "-        \x7b",
    "-        \x7d",
    "+        [Fact]",
    "+        public async Task LoginAsync_ReturnsToken()",
    "+        \x7b",
    "+        \x7d",
    "+",
    "+        [Theory]",
    "+        [InlineData(\"github\")]",
    "+        [InlineData(\"gitlab\")]",
    "+        public async Task LoginAsync_SupportsProvider(string provider)",
    "+        \x7b",
    "+        \x7d",
    "+",
    "+        // [Fact]",
    "+        // public void Disabled() \x7b \x7d",
    " ",
    "         [Fact]",
    "         public void Constructor_RequiresLogger()",
    "diff --git a/src/Auth/Auth.csproj b/src/Auth/Auth.csproj",
    "index 5e1f0b3..a84c2d7 100644",
    "--- a/src/Auth/Auth.csproj",
    "+++ b/src/Auth/Auth.csproj",
    "@@ -6,10 +6,11 @@",
    "   <ItemGroup>",
    "-    <PackageReference Include=\"Newtonsoft.Json\" Version=\"13.0.2\" />",
    "-    <PackageReference Include=\"RestSharp\" Version=\"106.15.0\" />",
    "+    <PackageReference Include=\"Microsoft.Extensions.Logging\" Version=\"8.0.0\" />",
    "+    <PackageReference Include=\"Newtonsoft.Json\" Version=\"13.0.3\" />",
    "   </ItemGroup>",
    " ",
    "   <ItemGroup>",
    "+    <ProjectReference Include=\"..\\Auth.Core\\Auth.Core.csproj\" />",
    "   </ItemGroup>",
    " </Project>",
    "diff --git a/README.md b/README.md",
    "index 1234567..89abcde 100644",
    "--- a/README.md",
    "+++ b/README.md",
    "@@ -1,3 +1,4 @@",
    " # Auth",
    "+Add a `<PackageReference Include=\"Auth\" Version=\"1.0.0\" />` to your project.",
    " ",
    " [Fact] tests run with `dotnet test`."]

/-- The sample as the text of a diff. -/
def diff : String := String.join (lines.map (· ++ "\n"))

end Sample

end PullReport
